import SampleForge.Text.Ligature

/-!
# The width of a text in columns

How many columns of a character grid a text takes.  East Asian wide characters and emoji take
two.  Accents, format characters and the later parts of a composed syllable take none.  The Khmer
sign U+17D8 takes three.  All other characters take one, control characters included.

Some characters take more or less room beside others.

* A carriage return before a line feed takes no column.
* The parts of a ligature (`LigatureEnd`) and of a vowel sign of Kirat Rai take one together.
* An emoji selector makes the character before it an emoji, a text selector an emoji before it
  narrow, and the selector U+FE01 a curly quotation mark before it wide.
* An emoji with a skin tone, and emoji tied together by joiners, take two columns together.  The
  last emoji of such a sequence may be any, and each before it may be a plain emoji, one with a
  selector or a skin tone, a keycap, a pair of regional indicators or a flag with tags.

So the width of a character depends on what follows it, and the text is read from its end.  `Right`
is what `before` has to know of the characters that follow.
-/

namespace SampleForge.Text

/-! ## What follows a character -/

/-- The selectors that change the character before them. -/
inductive Selector
  /-- U+FE0E: show the character as text. -/
  | text
  /-- U+FE0F: show the character as an emoji. -/
  | emoji
  /-- U+FE01: show the quotation mark in full width. -/
  | wideQuote
deriving DecidableEq

/-- What stands at the head of the characters that follow. -/
inductive Head
  /-- Nothing that changes a width. -/
  | plain
  /-- A line feed. -/
  | lineFeed
  /-- A skin tone. -/
  | skinTone
  /-- Regional indicators: one, or several. -/
  | indicators (several : Bool)
  /-- An emoji. -/
  | emoji
  /-- A joiner and an emoji. -/
  | tied
  /-- A keycap, a joiner and an emoji. -/
  | tiedKeycap
  /-- A regional indicator, a joiner and an emoji. -/
  | tiedIndicator
  /-- Several regional indicators, a joiner and an emoji. -/
  | tiedIndicators (even : Bool)
  /-- Some tag letters, the end of the tags, a joiner and an emoji. -/
  | tiedLetters (count : Nat)
  /-- Some tag digits, perhaps tag letters, the end of the tags, a joiner and an emoji. -/
  | tiedDigits (count : Nat)
  /-- The vowel sign e of Kirat Rai. -/
  | vowelE
  /-- The vowel sign ai of Kirat Rai. -/
  | vowelAi
  /-- The end of a ligature, perhaps behind a joiner. -/
  | ligature (end? : LigatureEnd) (joined : Bool)
deriving DecidableEq

/-- What the width of a character depends on besides the character. -/
structure Right where
  /-- What stands at the head of the characters that follow. -/
  head : Head := .plain
  /-- A selector between the character and the head. -/
  selector : Option Selector := none
deriving DecidableEq

/-- A head with no selector before it. -/
def Head.right (head : Head) : Right := { head }

/-- Whether the end of a ligature stands at the head. -/
def Head.isLigature : Head → Bool
  | .ligature _ _ => true
  | _ => false

/-- Whether an emoji at the head takes part in a sequence that ends with the next character. -/
def Head.isTied (head : Head) : Bool := head == .tied || head == .tiedKeycap

/-- A selector put before what follows.  Of other heads than ligatures and tied emoji it keeps
nothing. -/
def Right.select (right : Right) (s : Selector) : Right :=
  { head := if right.head.isLigature || (s == .emoji && right.head.isTied) then right.head
      else .plain
    selector := some s }

/-- What follows, after a selector that did not change the character before it. -/
def Right.settled (right : Right) : Right :=
  if right.selector.isNone || right.head.isLigature then right.head.right else {}

/-! ## Single characters -/

/-- Whether a character is a regional indicator. -/
def isIndicator (c : Char) : Bool := 0x1F1E6 ≤ c.toNat && c.toNat ≤ 0x1F1FF

/-- Whether a character is a skin tone. -/
def isSkinTone (c : Char) : Bool := 0x1F3FB ≤ c.toNat && c.toNat ≤ 0x1F3FF

/-- Whether a character shows as an emoji by itself. -/
def isEmoji (c : Char) : Bool := inRuns emojiRuns c.toNat

/-- Whether a selector chooses between text and emoji for a character. -/
def isStyled (c : Char) : Bool := inRuns styledRuns c.toNat

/-- Whether a character is a tag letter. -/
def isTagLetter (c : Char) : Bool := 0xE0061 ≤ c.toNat && c.toNat ≤ 0xE007A

/-- Whether a character is a tag digit. -/
def isTagDigit (c : Char) : Bool := 0xE0030 ≤ c.toNat && c.toNat ≤ 0xE0039

/-- The width of a character that nothing beside it changes, and what it is to the characters
before it. -/
def alone (c : Char) : Nat × Right :=
  let n := c.toNat
  match ligatureEnd? c with
  | some e => (1, Head.right (.ligature e false))
  | none =>
      if n = 0xFE01 then (0, Right.select {} .wideQuote)
      else if n = 0xFE0E then (0, Right.select {} .text)
      else if n = 0xFE0F then (0, Right.select {} .emoji)
      else if n = 0x17D8 then (3, {})
      else if n = 0x16D67 then (1, Head.vowelE.right)
      else if n = 0x16D68 then (1, Head.vowelAi.right)
      else if isIndicator c then (1, Head.right (.indicators false))
      else if isSkinTone c then (2, Head.skinTone.right)
      else if isEmoji c then (2, Head.emoji.right)
      else if isSilent c then (0, {})
      else if inRuns wideRuns n then (2, {})
      else (1, {})

/-! ## Characters beside others -/

/-- The character before a selector, if the selector changes it. -/
def selected? (right : Right) (c : Char) : Option (Int × Right) :=
  match right.selector with
  | some .emoji =>
      if isStyled c then some (if right.head.isTied then 0 else 2, Head.emoji.right) else none
  | some .text =>
      if isStyled c && isEmoji c && !(0x1F200 ≤ c.toNat && c.toNat < 0x1F300) then some (1, {})
      else none
  | some .wideQuote =>
      if c == '‘' || c == '’' || c == '“' || c == '”' then some (2, {}) else none
  | none => none

/-- The character before an emoji that a joiner ties to it, with the parts of the character that
have been read: the columns it adds, and what it is. -/
def tied? (head : Head) (c : Char) : Option (Int × Head) :=
  match head with
  | .tied =>
      if c == '\u20E3' then some (0, .tiedKeycap)
      else if isIndicator c then some (1, .tiedIndicator)
      else if isSkinTone c then some (0, .skinTone)
      else if c.toNat = 0xE007F then some (0, .tiedLetters 0)
      else if isEmoji c then some (0, .emoji)
      else none
  | .tiedIndicator | .tiedIndicators false =>
      if isIndicator c then some (-1, .tiedIndicators true) else none
  | .tiedIndicators true => if isIndicator c then some (3, .tiedIndicators false) else none
  | .tiedLetters count =>
      if isTagLetter c && count < 6 then some (0, .tiedLetters (count + 1))
      else if isTagDigit c && count < 5 then some (0, .tiedDigits 1)
      else if c.toNat = 0x1F3F4 && 3 ≤ count then some (0, .emoji)
      else none
  | .tiedDigits count =>
      if isTagDigit c && count < 3 then some (0, .tiedDigits (count + 1))
      else if c.toNat = 0x1F3F4 && count = 3 then some (0, .emoji)
      else none
  | _ => none

/-- The character before a head that changes it, other than the end of a ligature. -/
def beside? (head : Head) (c : Char) : Option (Int × Head) :=
  match head with
  | .skinTone =>
      if inRuns tonedRuns c.toNat then some (0, .emoji)
      else if c == joiner then some (0, .tied)
      else none
  | .indicators several =>
      if isIndicator c then some (1, .indicators true)
      else if several && c == joiner then some (0, .tied)
      else none
  | .emoji => if c == joiner then some (0, .tied) else none
  | .tiedIndicators _ => if c == joiner then some (0, .tied) else tied? head c
  | .vowelE =>
      match c.toNat with
      | 0x16D63 | 0x16D69 => some (0, .plain)
      | 0x16D67 => some (0, .vowelAi)
      | 0x16D68 => some (1, .vowelE)
      | _ => none
  | .vowelAi => if c.toNat = 0x16D63 then some (0, .plain) else none
  | _ => tied? head c

/-- The character before the end of a ligature, if it has to do with the ligature. -/
def ligated? (e : LigatureEnd) (joined : Bool) (c : Char) : Option (Int × Head) :=
  if e.isOpen && c == joiner then some (0, .ligature e true)
  else if e.isOpen && inRuns ignorableMarkRuns c.toNat then some (0, .ligature e joined)
  else
    (e.take? joined c).map fun found =>
      (found.1, (found.2.map fun more => Head.ligature more true).getD .plain)

/-- A character before a head with no selector between them. -/
def joined? (head : Head) (c : Char) : Option (Int × Right) :=
  let found :=
    match head with
    | .ligature e joined => ligated? e joined c
    | _ => beside? head c
  found.map fun (columns, head) => (columns, head.right)

/-- The columns a character adds to those of the characters that follow it, and what it is, with
them, to the characters before it. -/
def before (c : Char) (right : Right) : Int × Right :=
  match selected? right c with
  | some found => found
  | none =>
      let right := right.settled
      if c.toNat ≤ 0xA0 then
        if c == '\n' then (1, Head.lineFeed.right)
        else (if c == '\r' && right.head == .lineFeed then 0 else 1, {})
      else
        match c.toNat with
        | 0xFE0F => (0, right.select .emoji)
        | 0xFE0E => (0, right.select .text)
        | 0xFE01 => (0, right.select .wideQuote)
        | _ =>
            match joined? right.head c with
            | some found => found
            | none => ((alone c).1, (alone c).2)

/-! ## Texts -/

/-- The columns of the characters, and what stands at their head. -/
def widthFromRight (cs : List Char) : Int × Right :=
  cs.foldr (fun c rest => ((before c rest.2).1 + rest.1, (before c rest.2).2)) (0, {})

/-- The number of columns a text takes. -/
def width (s : String) : Nat := (widthFromRight s.toList).1.toNat

section Tests

example : width "tests/日本" = 10 := by decide +kernel
example : width "e\u0301\r\n" = 2 := by decide +kernel
example : width "\u2764\uFE0F" = 2 := by decide +kernel
example : width "لا" = 1 := by decide +kernel
example : width "កម្ពុជា" = 4 := by decide +kernel
example : width "🇩🇪\u200D🇫🇷" = 2 := by decide +kernel

end Tests

end SampleForge.Text
