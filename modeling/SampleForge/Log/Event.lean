import SampleForge.Json.Value

/-!
# Events

What a run notes while it works.  An event has a level, the part of the program that it comes from,
a message, and named values.
-/

namespace SampleForge

/-- How important an event is, the most important last. -/
inductive Level where
  | trace
  | debug
  | info
  | warn
  | error
  deriving DecidableEq, Repr

namespace Level

/-- The place of a level, the most talkative last. -/
def verbosity : Level → Nat
  | .error => 1
  | .warn => 2
  | .info => 3
  | .debug => 4
  | .trace => 5

/-- The name of a level in a journal. -/
def heading : Level → String
  | .trace => "TRACE"
  | .debug => "DEBUG"
  | .info => "INFO"
  | .warn => "WARN"
  | .error => "ERROR"

end Level

/-- An event. -/
structure Event where
  /-- How important it is. -/
  level : Level
  /-- The part of the program that it comes from. -/
  target : String
  /-- What it says. -/
  message : String
  /-- Its named values. -/
  fields : List (String × Json.Value) := []
  /-- The names of values that are measured while the program runs.  What was measured is not a
  part of the event. -/
  measured : List String := []

namespace Event

/-- An event of a part of the program. -/
def of (level : Level) (part message : String) (fields : List (String × Json.Value) := []) :
    Event :=
  { level := level
    target := if part = "" then "samplegen" else "samplegen::" ++ part
    message := message
    fields := fields }

/-- Whether an event has a value of a name.  The message is one. -/
def hasValue (e : Event) (name : String) : Bool :=
  name = "message" || e.measured.contains name || e.fields.any fun f => f.1 = name

/-- The named values and the message, as a journal in JSON holds them. -/
def values (e : Event) : Json.Value := .ofFields (("message", .text e.message) :: e.fields)

end Event

end SampleForge
