import SampleForge.Log.Directive

/-!
# Filters

A filter is a list of directives, the most specific first: a longer target before a shorter one,
and then more fields before fewer.  Two directives with the same target and fields do not stand
side by side; the later one takes the place of the earlier.

The first directive that concerns an event decides whether it is kept (`LogFilter.keeps`).  An
event that no directive concerns is dropped.
-/

namespace SampleForge

open Text (hasStart split)

namespace Directive

/-- How specific a target is. -/
def targetRank (d : Directive) : Nat :=
  match d.target with
  | some target => target.utf8ByteSize + 1
  | none => 0

/-- Whether two directives have the same target and fields. -/
def sameScope (d e : Directive) : Bool := d.target = e.target && d.fields = e.fields

/-- The names of the fields. -/
def fieldNames (d : Directive) : List String := d.fields.map (·.name)

/-- Whether a directive stands before another. -/
def isBefore (d e : Directive) : Bool :=
  if d.targetRank ≠ e.targetRank then e.targetRank < d.targetRank
  else if d.fields.length ≠ e.fields.length then e.fields.length < d.fields.length
  else if d.target ≠ e.target then e.target.getD "" < d.target.getD ""
  else e.fieldNames < d.fieldNames

/-- Whether a directive concerns an event. -/
def concerns (d : Directive) (e : Event) : Bool :=
  (match d.target with
    | some target => hasStart target e.target
    | none => true) &&
    d.fieldNames.all e.hasValue

end Directive

/-- A filter: its directives, the most specific first. -/
structure LogFilter where
  /-- The directives. -/
  directives : List Directive := []
  deriving DecidableEq

namespace LogFilter

/-- A list of directives with one more at its place. -/
def place (d : Directive) : List Directive → List Directive
  | [] => [d]
  | e :: rest =>
      if d.sameScope e then d :: rest
      else if d.isBefore e then d :: e :: rest
      else e :: place d rest

/-- The filter with one more directive.  Directives for spans change nothing. -/
def add (filter : LogFilter) (d : Directive) : LogFilter :=
  if d.isForSpans then filter else ⟨place d filter.directives⟩

/-- The filter of several directives.  Without any, a default is taken. -/
def ofDirectives (default : Directive) (directives : List Directive) : LogFilter :=
  if directives.isEmpty then LogFilter.add {} default else directives.foldl add {}

/-- Whether an event is kept. -/
def keeps (filter : LogFilter) (e : Event) : Bool :=
  match filter.directives.find? (·.concerns e) with
  | some d => Threshold.keeps d.threshold e.level
  | none => false

/-! ## Reading -/

/-- The texts of the directives in a list of them. -/
def pieces (s : String) : List String := (split ',' s).filter (· ≠ "")

/-- The filter that a text tells, if it is well formed. -/
def parse (s : String) : Except DirectiveFault LogFilter := do
  return ofDirectives { threshold := none } (← (pieces s).mapM Directive.parse)

/-- The directives of a text that are well formed. -/
def usable (s : String) : List Directive :=
  (pieces s).filterMap fun piece => (Directive.parse piece).toOption

/-- The filter of the directives of a text that are well formed. -/
def ofText (s : String) : LogFilter :=
  ofDirectives { threshold := some .error } (usable s)

/-- What is said about the directives of a text that are not well formed. -/
def complaints (s : String) : List String :=
  (pieces s).filterMap fun piece =>
    match Directive.parse piece with
    | .ok _ => none
    | .error fault => some ("ignoring " ++ Text.ticked piece ++ ": " ++ fault.message)

section Tests

/-- An event of a part of the program. -/
def sampleEvent : Event := Event.of .debug "output::collector" "Collecting"

example : (ofText "samplegen::output=trace,warn").keeps sampleEvent = true := by decide +kernel
example : (ofText "trace,samplegen=info").keeps sampleEvent = false := by decide +kernel
example : (parse "").toOption.map (·.keeps sampleEvent) = some false := by decide +kernel

end Tests

end LogFilter

end SampleForge
