import SampleForge.Binary64.Reader
import SampleForge.Log.Event
import SampleForge.Log.Fault
import SampleForge.Log.Pattern
import SampleForge.Text.AlphanumericTable
import SampleForge.Text.Blank
import SampleForge.Text.Case
import SampleForge.Text.Digits
import SampleForge.Text.Pieces

/-!
# Filter directives

A directive says which events of a part of the program are kept.  It is written
`target[span{fields}]=level`, and every part may be missing.

* The target is the start of the name of the part.  A word that is the name of a level stands for
  the level alone, and any other word for a target with all its events.
* A span restricts the directive to what happens inside of it.  The program opens no span, so such
  a directive never keeps an event (`isForSpans`).
* Fields restrict the directive to events that have them.  A field with a value needs a span.  The
  value is a number or a pattern, and a pattern must be well formed.

A directive is read by a walk along its characters (`Directive.step`).  Places are counted in bytes
from the first character that is not blank, and the parts are cut out of the text with its blanks.
So a blank of several bytes in front can put a place inside a character.  A text cannot be cut
there, and a program that tries to stops at once.  Such a stop is no outcome here: the character is
taken as a whole (`Directive.cut`).
-/

namespace SampleForge

open Text (lowerAscii trimLeft trimRight)

/-- The level from which events are kept.  None keeps nothing. -/
abbrev Threshold := Option Level

namespace Threshold

/-- Whether events of a level are kept. -/
def keeps (threshold : Threshold) (level : Level) : Bool :=
  match threshold with
  | some least => level.verbosity ≤ least.verbosity
  | none => false

/-- The thresholds by their names. -/
def words : List (String × Threshold) :=
  [("off", none), ("error", some .error), ("warn", some .warn), ("info", some .info),
    ("debug", some .debug), ("trace", some .trace)]

/-- The number that a text of digits tells.  A plus sign may stand in front. -/
def number? (s : String) : Option Nat :=
  let digits :=
    match s.toList with
    | '+' :: cs => cs
    | cs => cs
  if digits.isEmpty || !digits.all Char.isDigit then none else some (Text.decimalValue digits)

/-- The threshold that a text tells: a name in any case, or its place from 0 to 5. -/
def parse? (s : String) : Option Threshold :=
  match number? s with
  | some n => (words.map (·.2))[n]?
  | none => (words.find? fun w => w.1 = lowerAscii s).map (·.2)

end Threshold

/-- A field of a directive. -/
structure FieldCondition where
  /-- The name of the field. -/
  name : String
  /-- Whether a value is asked for as well. -/
  valued : Bool
  deriving DecidableEq, Repr

/-- A directive. -/
structure Directive where
  /-- The start of the names of the parts. -/
  target : Option String := none
  /-- The span. -/
  span : Option String := none
  /-- The fields. -/
  fields : List FieldCondition := []
  /-- The events to keep. -/
  threshold : Threshold := some .trace
  deriving DecidableEq, Repr

namespace Directive

/-- Whether only what happens inside spans is concerned. -/
def isForSpans (d : Directive) : Bool := d.span.isSome || d.fields.any (·.valued)

/-! ## Reading -/

/-- The place in a directive.  A part that is being read knows where it starts. -/
inductive State where
  | start
  | word (first : Nat)
  | span (first : Nat)
  | field (first : Nat)
  | afterField
  | afterSpan
  | level (first : Nat)
  | complete

/-- The characters that fill the first bytes of a text, the last of them as a whole even if only some
of its bytes are among those. -/
def takeBytes : Nat → List Char → List Char
  | 0, _ | _, [] => []
  | count, c :: cs => c :: takeBytes (count - c.utf8Size) cs

/-- The characters after the first bytes of a text, without one that those bytes end in. -/
def dropBytes : Nat → List Char → List Char
  | 0, cs => cs
  | _, [] => []
  | count, c :: cs => dropBytes (count - c.utf8Size) cs

/-- The characters of a text from one place up to another.  The places should lie between characters:
where one lies inside, a cut by bytes has no result, and this one goes behind the character. -/
def cut (whole : List Char) (first last : Nat) : String :=
  String.ofList (takeBytes (last - first) (dropBytes first whole))

/-- The characters of a text from a place on. -/
def cutFrom (whole : List Char) (first : Nat) : String := String.ofList (dropBytes first whole)

/-- The condition that a text tells. -/
def conditionOf (s : String) : FieldCondition :=
  ⟨String.ofList (s.toList.takeWhile (· ≠ '=')), s.toList.contains '='⟩

/-- The value that a text asks for: what stands between its first equals sign and the next. -/
def valueOf? (s : String) : Option String := (Text.split '=' s)[1]?

/-- What is wrong with the value of a field.  What is no number is a pattern. -/
def valueFault? (value : String) : Option PatternFault :=
  if (Binary64.read? value).isSome then none else Pattern.fault? value

/-- The directive with a field added. -/
def addField (d : Directive) (s : String) : Except DirectiveFault Directive :=
  if s = "" then .error .malformed
  else
    match (valueOf? s).bind valueFault? with
    | some fault => .error (.badField fault)
    | none => .ok { d with fields := d.fields ++ [conditionOf s] }

/-- The directive with its level.  No level at all means every event. -/
def setLevel (d : Directive) (s : String) : Except DirectiveFault Directive :=
  if s = "" then .ok { d with threshold := some .trace }
  else
    match Threshold.parse? s with
    | some threshold => .ok { d with threshold := threshold }
    | none => .error .unknownLevel

/-- The directive that is a single word. -/
def setWord (d : Directive) (s : String) : Directive :=
  if s = "" then { d with target := none, threshold := some .trace }
  else
    match Threshold.parse? s with
    | some threshold => { d with target := none, threshold := threshold }
    | none => { d with target := some s, threshold := some .trace }

/-- Whether a directive may start with a character. -/
def isStart (c : Char) : Bool :=
  c = '-' || c = ':' || c = '_' || c.isAlphanum || Text.inRuns Text.alphanumericRuns c.toNat

/-- One character of a directive. -/
def step (whole : List Char) (state : State) (d : Directive) (i : Nat) (c : Char) :
    Except DirectiveFault (State × Directive) :=
  match state with
  | .start =>
      if c = '[' then .ok (.span (i + 1), d)
      else if isStart c then .ok (.word i, d)
      else .error .malformed
  | .word first =>
      if c = '=' then .ok (.level (i + 1), { d with target := some (cut whole first i) })
      else if c = '[' then .ok (.span (i + 1), { d with target := some (cut whole first i) })
      else if c = ',' then .ok (.complete, d.setWord (cutFrom whole first))
      else .ok (.word first, d)
  | .span first =>
      if c = ']' then .ok (.afterSpan, { d with span := some (cut whole first i) })
      else if c = '\x7b' then
        let name := cut whole first i
        .ok (.field (i + 1), { d with span := if name = "" then none else some name })
      else .ok (.span first, d)
  | .field first =>
      if c = '\x7d' then do return (.afterField, ← d.addField (cut whole first i))
      else if c = ',' then do return (.field (i + 1), ← d.addField (cut whole first i))
      else .ok (.field first, d)
  | .afterField => if c = ']' then .ok (.afterSpan, d) else .error .malformed
  | .afterSpan => if c = '=' then .ok (.level (i + 1), d) else .error .malformed
  | .level first =>
      if c = ',' then do return (.complete, ← d.setLevel (cut whole first i))
      else .ok (.level first, d)
  | .complete => .error .malformed

/-- The end of a directive. -/
def finish (whole : List Char) (state : State) (d : Directive) :
    Except DirectiveFault Directive :=
  match state with
  | .word first => .ok (d.setWord (cutFrom whole first))
  | .level first => d.setLevel (cutFrom whole first)
  | .afterSpan | .complete => .ok d
  | _ => .error .malformed

/-- The rest of a directive. -/
def walk (whole : List Char) (state : State) (d : Directive) (i : Nat) :
    List Char → Except DirectiveFault Directive
  | [] => finish whole state d
  | c :: cs => do
      let (state, d) ← step whole state d i c
      walk whole state d (i + c.utf8Size) cs

/-- The directive that a text tells. -/
def parse (s : String) : Except DirectiveFault Directive :=
  walk s.toList .start {} 0 (trimRight (trimLeft s.toList))

end Directive

section Tests

example : (Directive.parse "a::b=Debug").toOption =
    some { target := some "a::b", threshold := some .debug } := by decide +kernel
example : (Directive.parse "warn").toOption = some { threshold := some .warn } := by
  decide +kernel
example : (Directive.parse "a").toOption = some { target := some "a" } := by decide +kernel
example : (Directive.parse "[s\x7bx=1\x7d]=2").toOption =
    some { span := some "s", fields := [⟨"x", true⟩], threshold := some .warn } := by
  decide +kernel
example : (Directive.parse "[s\x7bx=+1\x7d]").toOption.isSome = true ∧
    (Directive.parse "[s\x7bx=+\x7d]").toOption = none := by decide +kernel
/-- The blank in front takes three bytes. -/
example : (Directive.parse "\u2003abc[s\x7bx=*\x7d]").toOption =
    some { target := some "\u2003", span := some "b", fields := [⟨"[s\x7b", false⟩] } := by
  decide +kernel
example : (Directive.parse "é=1").toOption =
    some { target := some "é", threshold := some .error } := by decide +kernel
example : (Directive.parse "→").toOption = none := by decide +kernel
example : (Directive.parse "").toOption = none ∧ (Directive.parse "a=b=c").toOption = none := by
  decide +kernel

end Tests

end SampleForge
