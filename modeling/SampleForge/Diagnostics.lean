import SampleForge.Json.Decode

/-!
# Diagnostics

Errors, warnings and notes raised while an API model is resolved, in the order in which they were
raised.  An error stops every generator; `errorCount` is what decides.
-/

namespace SampleForge

open Json (Access Fault Shape Value)
open Text (joinWith)

/-- How bad a diagnostic is, the worst first. -/
inductive Severity where
  | error
  | warning
  | note
  deriving DecidableEq, Repr

namespace Severity

/-- The name of a severity in messages. -/
def heading : Severity → String
  | .error => "ERROR"
  | .warning => "WARNING"
  | .note => "NOTE"

/-- The name of a severity in data. -/
def word : Severity → String
  | .error => "error"
  | .warning => "warning"
  | .note => "note"

/-- The words for the severities. -/
def words : List (String × Severity) := [error, warning, note].map fun s => (s.word, s)

end Severity

/-- A diagnostic. -/
structure Diagnostic where
  /-- How bad it is. -/
  severity : Severity
  /-- The place in the model, if it has one. -/
  location : Option String := none
  /-- What it says. -/
  message : String
  deriving DecidableEq, Repr

namespace Diagnostic

/-- Whether the diagnostic is an error. -/
def isError (d : Diagnostic) : Bool := d.severity = .error

/-- The line that shows a diagnostic. -/
def line (d : Diagnostic) : String :=
  match d.location with
  | some location => d.severity.heading ++ ": " ++ location ++ ": " ++ d.message
  | none => d.severity.heading ++ ": " ++ d.message

/-- The number of errors. -/
def errorCount (diagnostics : List Diagnostic) : Nat := diagnostics.countP isError

/-- Diagnostics as an indented list, one to a line. -/
def render (diagnostics : List Diagnostic) : String :=
  joinWith "\n" (diagnostics.map fun d => "  - " ++ d.line)

/-! ## The wire form -/

/-- The wire form of a diagnostic.  A missing location is left out. -/
def toJson (d : Diagnostic) : Value :=
  .object ((match d.location with
    | some location => [("location", .text location)]
    | none => []) ++ [("message", .text d.message), ("severity", .text d.severity.word)])

/-- A diagnostic as a record. -/
def shape : Shape := ⟨"struct Diagnostic", ["severity", "location", "message"]⟩

/-- The fields read so far. -/
structure Draft where
  /-- The severity. -/
  severity : Option Severity := none
  /-- The place in the model. -/
  location : Option String := none
  /-- The message. -/
  message : Option String := none

/-- Takes in a field. -/
def Draft.set (access : Access) (draft : Draft) (field : String) (v : Value) :
    Except Fault Draft :=
  if field = "severity" then do
    return { draft with severity := some (← Json.readVariant access Severity.words v) }
  else if field = "location" then do
    return { draft with location := ← Json.readOptional Json.readText v }
  else if field = "message" then do return { draft with message := some (← Json.readText v) }
  else return draft

/-- The diagnostic of a complete draft. -/
def Draft.finish (absent : String → Fault) (draft : Draft) : Except Fault Diagnostic := do
  let severity ← Json.require absent "severity" draft.severity
  let message ← Json.require absent "message" draft.message
  return ⟨severity, draft.location, message⟩

/-- Reads a diagnostic. -/
def read (v : Value) : Except Fault Diagnostic :=
  shape.read .direct {} (Draft.set .direct) Draft.finish v

section Tests

example : line ⟨.error, some "a.proto", "bad"⟩ = "ERROR: a.proto: bad" := by decide
example : errorCount [⟨.error, none, "x"⟩, ⟨.note, none, "y"⟩] = 1 := by decide

end Tests

end Diagnostic

end SampleForge
