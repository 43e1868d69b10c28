import SampleForge.Json.Printer
import SampleForge.Log.Plan
import SampleForge.Timestamp

/-!
# Lines of a log

How a kept event is written.  A line of JSON is an object with the moment, the level, the named
values with the message among them, and the part of the program.  A line of text has the same in
this order, with the message before the values.
-/

namespace SampleForge

namespace Event

/-- A value in a line of text. -/
def valueText : Json.Value → String
  | .text s => s
  | v => v.compact

/-- The message and the values of an event in a line of text. -/
def body (e : Event) : String :=
  e.message ++ String.join (e.fields.map fun f => " " ++ f.1 ++ "=" ++ valueText f.2)

/-- A level with blanks before it, five characters in all. -/
def levelText (level : Level) : String :=
  String.ofList (List.replicate (5 - level.heading.length) ' ') ++ level.heading

/-- An event as a line of text. -/
def textLine (now : Timestamp) (e : Event) : String :=
  now.text ++ " " ++ levelText e.level ++ " " ++ e.target ++ ": " ++ e.body

/-- An event as a line of JSON. -/
def jsonLine (now : Timestamp) (e : Event) : String :=
  "\x7b\"timestamp\":" ++ (Json.Value.text now.text).compact ++ ",\"level\":" ++
    (Json.Value.text e.level.heading).compact ++ ",\"fields\":" ++ e.values.compact ++
    ",\"target\":" ++ (Json.Value.text e.target).compact ++ "\x7d"

/-- An event as a line. -/
def line (format : LogFormat) (now : Timestamp) (e : Event) : String :=
  match format with
  | .text => e.textLine now
  | .json => e.jsonLine now

section Tests

example : (Event.of .info "cli::route" "Generation finished" [("files", .int 2)]).textLine ⟨0, 0⟩ =
    "1970-01-01T00:00:00+00:00  INFO samplegen::cli::route: Generation finished files=2" := by
  decide +kernel

end Tests

end Event

end SampleForge
