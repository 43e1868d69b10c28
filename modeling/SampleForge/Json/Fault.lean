import SampleForge.Json.Value
import SampleForge.Text.Pieces
import SampleForge.Text.Quoted

/-!
# Why a JSON value is refused

A value that does not have the form a reader asks for is refused with a `Fault`.  `message` words
it: what was found, and what was expected in its place.
-/

namespace SampleForge.Json

open SampleForge.Text (joinWith quoted ticked)

/-- A reason to refuse a value. -/
inductive Fault where
  /-- The value is of another type. -/
  | wrongType (found : Value) (expected : String)
  /-- The value is of the right type and still not possible. -/
  | wrongValue (found expected : String)
  /-- A list has a member too many or too few. -/
  | wrongLength (length : Nat) (expected : String)
  /-- A name is none of the known ones. -/
  | unknownVariant (name : String) (known : List String)
  /-- A required field is not there. -/
  | missingField (name : String)
  /-- The value has the right form and breaks a rule of what it stands for. -/
  | refused (reason : String)

/-- A value in the words of a message. -/
def Value.describe : Value → String
  | .null => "null"
  | .bool b => "boolean " ++ ticked (if b then "true" else "false")
  | .int n => "integer " ++ ticked (Int.repr n)
  | .real x => "floating point " ++ ticked x.scientific
  | .text s => "string " ++ quoted s
  | .list _ => "sequence"
  | .object _ => "map"

/-- The known names of a message: two are joined by "or", more are listed. -/
def listKnown : List String → String
  | [] => "there are no variants"
  | [a] => ticked a
  | [a, b] => ticked a ++ " or " ++ ticked b
  | names => "one of " ++ joinWith ", " (names.map ticked)

/-- The wording of a fault. -/
def Fault.message : Fault → String
  | .wrongType found expected => "invalid type: " ++ found.describe ++ ", expected " ++ expected
  | .wrongValue found expected => "invalid value: " ++ found ++ ", expected " ++ expected
  | .wrongLength length expected =>
      "invalid length " ++ Nat.repr length ++ ", expected " ++ expected
  | .unknownVariant name known =>
      "unknown variant " ++ ticked name ++ ", expected " ++ listKnown known
  | .missingField name => "missing field " ++ ticked name
  | .refused reason => reason

section Tests

example : (Fault.wrongType (.int 5) "a string").message =
    "invalid type: integer `5`, expected a string" := by decide +kernel
example : (Fault.unknownVariant "go" ["java", "python"]).message =
    "unknown variant `go`, expected `java` or `python`" := by decide +kernel

end Tests

end SampleForge.Json
