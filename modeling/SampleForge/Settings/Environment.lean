import SampleForge.Binary64.Reader
import SampleForge.Settings.Entry
import SampleForge.Text.Pieces

/-!
# Settings in the environment

A variable whose name starts with `SAMPLEGEN__`, in any case, is an entry of settings.  The rest of
the name, written small and with a point for every two underscores, is its key.

The value is the first of these that fits: a truth value, a whole number of 64 bits, a floating
number, a list if the key is that of a setting with several values, and a text.
-/

namespace SampleForge

open Text (hasStart split)

/-- The variables of an environment, each name once. -/
structure Environment where
  /-- The names and values. -/
  pairs : List (String × String) := []

namespace Environment

/-- The value of a variable, if it is set. -/
def get? (env : Environment) (name : String) : Option String := findPair? name env.pairs

/-- The variable in a text, which has its name, an equals sign and its value. -/
def ofText? (s : String) : Option (String × String) :=
  match s.toList.span (· ≠ '=') with
  | (name, _ :: value) => some (String.ofList name, String.ofList value)
  | (_, []) => none

/-- How the names of entries start. -/
def entryStart : String := "samplegen__"

/-- The characters with a point for every two underscores. -/
def pointed : List Char → List Char
  | '_' :: '_' :: cs => '.' :: pointed cs
  | c :: cs => c :: pointed cs
  | [] => []

/-- The key of an entry, if the variable is one. -/
def key? (name : String) : Option String :=
  let small := Text.lower name
  if hasStart entryStart small then
    some (String.ofList (pointed (small.toList.drop entryStart.length)))
  else none

/-- The whole number of 64 bits that a text tells. -/
def int? (s : String) : Option Int :=
  let (negative, digits) := Binary64.signOf s.toList
  if digits.isEmpty || !digits.all Char.isDigit then none
  else Text.fitting? negative (Text.decimalValue digits)

/-- The keys of settings with several values. -/
def listKeys : List String := ["generation.artifacts", "generation.snippets"]

/-- What messages call the source. -/
def origin : Option String := some "the environment"

/-- The entry of a value. -/
def entryOf (key value : String) : Entry :=
  if Text.lower value = "true" then .leaf origin (.bool true)
  else if Text.lower value = "false" then .leaf origin (.bool false)
  else
    match int? value, Binary64.read? value with
    | some n, _ => .leaf origin (.int n)
    | none, some x => .leaf origin (.real x)
    | none, none =>
        if key ∈ listKeys then
          .list origin ((split ',' value).map fun s => .leaf origin (.text s))
        else .leaf origin (.text value)

/-- The entries of all variables by their keys. -/
def entries (env : Environment) : List (String × Entry) :=
  env.pairs.foldl (fun found (name, value) =>
    match key? name with
    | some key => insertPair key (entryOf key value) found
    | none => found) []

end Environment

section Tests

example : Environment.key? "SAMPLEGEN__LOGGING__Level" = some "logging.level" := by decide +kernel
example : Environment.key? "SAMPLEGEN_ENV" = none := by decide +kernel
example : Environment.int? "+007" = some 7 := by decide +kernel
example : Environment.ofText? "A=b=c" = some ("A", "b=c") := by decide +kernel

end Tests

end SampleForge
