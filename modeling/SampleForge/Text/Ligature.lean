import SampleForge.Text.ShapeTable
import SampleForge.Text.WidthTable
import SampleForge.Text.Blank

/-!
# Ligatures

In some scripts two or three letters share one shape, which is no wider than one of them.  A
ligature is found from its end: `LigatureEnd` names the ends, with what has been read of the
ligature so far, and `LigatureEnd.take?` reads one more character to the left.

* Arabic: a lam before an alef.  Marks between them are passed over.
* Hebrew: alef, joiner, lamed.
* Khmer: the sign coeng before a letter that is written below the line.
* Buginese: a, the vowel i, joiner, ya.
* Tifinagh: two consonants with the consonant joiner or a joiner between them.
* Lisu: a tone letter before one of two other tone letters.
* Old Turkic: ec, joiner, i.

In all but Arabic, joiners and ignorable marks within a ligature change nothing.
-/

namespace SampleForge.Text

/-- The joiner, which asks for one shape for what stands around it. -/
def joiner : Char := '\u200D'

/-- The end of a ligature that has been read from the right. -/
inductive LigatureEnd
  /-- An Arabic alef. -/
  | alef
  /-- A Hebrew lamed. -/
  | lamed
  /-- The letter ya of Buginese. -/
  | ya
  /-- The vowel i and the letter ya of Buginese. -/
  | vowelYa
  /-- A consonant of Tifinagh. -/
  | consonant
  /-- The consonant joiner of Tifinagh and a consonant. -/
  | joinedConsonant
  /-- One of the two Lisu tone letters that come last. -/
  | tone
  /-- The letter i of Old Turkic. -/
  | orkhonI
  /-- A Khmer letter with a shape below the line that takes no room. -/
  | subjoined
deriving DecidableEq

/-- The Arabic letters of the shape of alef. -/
def alefRuns : List (Nat × Nat) :=
  [(0x622, 0x623), (0x625, 0x625), (0x627, 0x627), (0x671, 0x673), (0x675, 0x675), (0x773, 0x774),
    (0x870, 0x882)]

/-- The Arabic letters of the shape of lam. -/
def lamRuns : List (Nat × Nat) :=
  [(0x644, 0x644), (0x6B5, 0x6B8), (0x76A, 0x76A), (0x8A6, 0x8A6), (0x8C7, 0x8C7)]

/-- The Khmer letters with a shape below the line that takes no room. -/
def subjoinedRuns : List (Nat × Nat) :=
  [(0x1780, 0x1782), (0x1784, 0x1787), (0x1789, 0x178C), (0x178E, 0x1793), (0x1795, 0x1798),
    (0x179B, 0x179D), (0x17A0, 0x17A0), (0x17A2, 0x17A2), (0x17A7, 0x17A7), (0x17AB, 0x17AC),
    (0x17AF, 0x17AF)]

/-- The consonants of Tifinagh. -/
def tifinaghRuns : List (Nat × Nat) := [(0x2D31, 0x2D65), (0x2D6F, 0x2D6F)]

/-- The marks that ligatures pass over. -/
def ignorableMarkRuns : List (Nat × Nat) :=
  [(0x34F, 0x34F), (0x17B4, 0x17B5), (0x180B, 0x180D), (0x180F, 0x180F), (0xFE00, 0xFE0F),
    (0xE0100, 0xE01EF)]

/-- Whether a character takes no column of its own.  The consonant joiner of Tifinagh and the
halfwidth voice marks extend the character before them and take one. -/
def isSilent (c : Char) : Bool :=
  let n := c.toNat
  n != 0x2D7F && n != 0xFF9E && n != 0xFF9F && (inRuns extendingRuns n || inRuns silentRuns n)

/-- The end of a ligature that a letter can be. -/
def ligatureEnd? (c : Char) : Option LigatureEnd :=
  let n := c.toNat
  if inRuns alefRuns n then some .alef
  else if n = 0x5DC then some .lamed
  else if inRuns subjoinedRuns n then some .subjoined
  else if n = 0x1A10 then some .ya
  else if inRuns tifinaghRuns n then some .consonant
  else if n = 0xA4FC || n = 0xA4FD then some .tone
  else if n = 0x10C03 then some .orkhonI
  else none

namespace LigatureEnd

/-- Whether joiners and ignorable marks before the end change nothing. -/
def isOpen (e : LigatureEnd) : Bool := e != .alef

/-- Read one more character to the left of the end of a ligature: the columns it adds, and the end
with it, or none if the ligature is complete.  `joined` says whether a joiner stands between them.
Nothing comes of a character that is not part of the ligature. -/
def take? (e : LigatureEnd) (joined : Bool) (c : Char) : Option (Int × Option LigatureEnd) :=
  let n := c.toNat
  match e with
  | .alef =>
      if inRuns lamRuns n then some (0, none)
      else if isSilent c && !inRuns partingRuns n then some (0, some .alef)
      else none
  | .lamed => if joined && n = 0x5D0 then some (0, none) else none
  | .ya => if joined && n = 0x1A17 then some (0, some .vowelYa) else none
  | .vowelYa => if n = 0x1A15 then some (0, none) else none
  | .consonant =>
      if n = 0x2D7F then some (1, some .joinedConsonant)
      else if joined && inRuns tifinaghRuns n then some (0, none)
      else none
  | .joinedConsonant => if inRuns tifinaghRuns n then some (-1, none) else none
  | .tone => if 0xA4F8 ≤ n && n ≤ 0xA4FB then some (0, none) else none
  | .orkhonI => if joined && n = 0x10C32 then some (0, none) else none
  | .subjoined => if n = 0x17D2 then some (-1, none) else none

end LigatureEnd

section Tests

example : (ligatureEnd? 'ل', ligatureEnd? 'ا') = (none, some .alef) := by decide
example : LigatureEnd.take? .alef false 'ل' = some (0, none) := by decide
example : LigatureEnd.take? .lamed false 'א' = none := by decide

end Tests

end SampleForge.Text
