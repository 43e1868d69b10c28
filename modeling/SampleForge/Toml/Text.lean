import SampleForge.Text.Digits

/-!
# Reading texts in TOML

A text stands between quotes.  Double quotes allow escapes, single quotes do not.  One quote at
each end holds a text on one line, and three hold a text over several lines (`Fence`).

A text is read by a walk along its characters, with a `TextState` for the place in it.

* A line break right after the opening three quotes is dropped.
* Up to two quotes may stand right before the closing three, and up to two anywhere inside.
* In a text over several lines, a backslash at the end of a line drops the line break and all
  blanks and line breaks that follow.

Line breaks are single characters here; the reader of documents has brought them to that form.
-/

namespace SampleForge.Toml

open SampleForge.Text (hexValue?)

/-- What stands at both ends of a text. -/
structure Fence where
  /-- The quote. -/
  mark : Char
  /-- Whether there are three of them. -/
  long : Bool

/-- Whether escapes are read. -/
def Fence.escapes (fence : Fence) : Bool := fence.mark == '"'

/-- The place in a text. -/
inductive TextState where
  /-- Among plain characters. -/
  | plain
  /-- After some quotes in a row. -/
  | marks (count : Nat)
  /-- After a backslash. -/
  | escape
  /-- In the digits of a code point. -/
  | code (left value : Nat)
  /-- After a backslash and blanks. -/
  | lineEnd
  /-- After a dropped line break. -/
  | lineStart

/-- What a character leads to. -/
inductive TextStep where
  /-- The text goes on.  Its characters so far stand last first. -/
  | on (state : TextState) (seen : List Char)
  /-- The text has ended with the character. -/
  | ended (seen : List Char)
  /-- The text has ended before the character. -/
  | endedBefore (seen : List Char)
  /-- The character is not possible here. -/
  | bad

/-- Whether a character is a blank space or a tab. -/
def isGap (c : Char) : Bool := c = ' ' || c = '\t'

/-- Whether a character may stand for itself on a line. -/
def isPrinting (c : Char) : Bool := c = '\t' || (0x20 ≤ c.toNat && c ≠ '\x7f')

/-- The character that an escape of one letter stands for. -/
def shortEscape? (c : Char) : Option Char :=
  match c with
  | 'b' => some '\x08'
  | 't' => some '\t'
  | 'n' => some '\n'
  | 'f' => some '\x0c'
  | 'r' => some '\r'
  | '"' => some '"'
  | '\\' => some '\\'
  | _ => none

/-- A character among plain ones. -/
def plainStep (fence : Fence) (seen : List Char) (c : Char) : TextStep :=
  if c = fence.mark then if fence.long then .on (.marks 1) seen else .ended seen
  else if c = '\\' && fence.escapes then .on .escape seen
  else if c = '\n' then if fence.long then .on .plain ('\n' :: seen) else .bad
  else if isPrinting c then .on .plain (c :: seen)
  else .bad

/-- A character after a backslash. -/
def escapeStep (fence : Fence) (seen : List Char) (c : Char) : TextStep :=
  match shortEscape? c with
  | some e => .on .plain (e :: seen)
  | none =>
      if c = 'u' then .on (.code 4 0) seen
      else if c = 'U' then .on (.code 8 0) seen
      else if fence.long && c = '\n' then .on .lineStart seen
      else if fence.long && isGap c then .on .lineEnd seen
      else .bad

/-- A digit of a code point, of which `left` are missing. -/
def codeStep (seen : List Char) (left value : Nat) (c : Char) : TextStep :=
  match hexValue? c with
  | none => .bad
  | some d =>
      let value := 16 * value + d
      if 1 < left then .on (.code (left - 1) value) seen
      else if value.isValidChar then .on .plain (Char.ofNat value :: seen)
      else .bad

/-- A character after some quotes in a row.  Five quotes are two and the closing three. -/
def marksStep (fence : Fence) (seen : List Char) (count : Nat) (c : Char) : TextStep :=
  if c = fence.mark then
    if count < 4 then .on (.marks (count + 1)) seen else .ended (fence.mark :: fence.mark :: seen)
  else if count < 3 then plainStep fence (List.replicate count fence.mark ++ seen) c
  else .endedBefore (List.replicate (count - 3) fence.mark ++ seen)

/-- One character of a text. -/
def textStep (fence : Fence) (state : TextState) (seen : List Char) (c : Char) : TextStep :=
  match state with
  | .plain => plainStep fence seen c
  | .marks count => marksStep fence seen count c
  | .escape => escapeStep fence seen c
  | .code left value => codeStep seen left value c
  | .lineEnd =>
      if c = '\n' then .on .lineStart seen else if isGap c then .on .lineEnd seen else .bad
  | .lineStart =>
      if c = '\n' || isGap c then .on .lineStart seen else plainStep fence seen c

/-- A text of characters that stand last first. -/
def ofReversed (seen : List Char) : String := String.ofList seen.reverse

/-- The rest of a text, and what follows it. -/
def textFrom? (fence : Fence) (state : TextState) (seen : List Char) :
    List Char → Option (String × List Char)
  | [] =>
      match state with
      | .marks count =>
          if count < 3 then none
          else some (ofReversed (List.replicate (count - 3) fence.mark ++ seen), [])
      | _ => none
  | c :: cs =>
      match textStep fence state seen c with
      | .on state seen => textFrom? fence state seen cs
      | .ended seen => some (ofReversed seen, cs)
      | .endedBefore seen => some (ofReversed seen, c :: cs)
      | .bad => none

/-- A text on one line, and what follows it. -/
def lineText? : List Char → Option (String × List Char)
  | '"' :: cs => textFrom? ⟨'"', false⟩ .plain [] cs
  | '\'' :: cs => textFrom? ⟨'\'', false⟩ .plain [] cs
  | _ => none

/-- The characters without a line break at the start. -/
def dropBreak : List Char → List Char
  | '\n' :: cs => cs
  | cs => cs

/-- A text of either kind, and what follows it. -/
def text? : List Char → Option (String × List Char)
  | '"' :: '"' :: '"' :: cs => textFrom? ⟨'"', true⟩ .plain [] (dropBreak cs)
  | '\'' :: '\'' :: '\'' :: cs => textFrom? ⟨'\'', true⟩ .plain [] (dropBreak cs)
  | cs => lineText? cs

section Tests

example : text? ['"', 'a', '\\', 'u', '0', '0', 'e', '9', '"', ','] = some ("aé", [',']) := by
  decide +kernel
example : text? "\"\"\"\na\"\"b\"\"\"\"\"".toList = some ("a\"\"b\"\"", []) := by decide +kernel
example : text? "\"\"\"a \\ \n\n  b\"\"\" ".toList = some ("a b", [' ']) := by decide +kernel
example : text? "'a\\n'".toList = some ("a\\n", []) := by decide +kernel
example : text? "\"a\nb\"".toList = none := by decide +kernel
example : text? "\"\\ud800\"".toList = none := by decide +kernel

end Tests

end SampleForge.Toml
