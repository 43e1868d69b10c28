import SampleForge.Text.Blank
import SampleForge.Text.CaseTable
import SampleForge.Text.PassedOverTable

/-!
# Letter case

Changing the case of one character at a time, by the tables of `CaseTable` for the letters beyond
ASCII.  A character may become several: `ß` has the capital form `SS`.  `lowerChar` and `upperChar`
do not look at neighbours, so a capital sigma always becomes the same small sigma.

Two functions change whole texts.

* `lower` makes every character small.  A capital sigma at the end of a word becomes a final sigma.
* `lowerAscii` changes the 26 ASCII capitals and nothing else.
-/

namespace SampleForge.Text

/-- Whether a run holds a code point. -/
def LetterRun.holds (run : LetterRun) (n : Nat) : Bool :=
  run.first ≤ n && n ≤ run.last && (n - run.first) % run.stride == 0

/-- What a run turns a code point into, if it holds it. -/
def CaseRun.imageOf? (run : CaseRun) (n : Nat) : Option Nat :=
  if run.first ≤ n && n ≤ run.last && (n - run.first) % run.stride == 0 then
    some (run.image + (n - run.first))
  else none

/-- The images of a code point beyond ASCII: by an expansion, by a run, or itself. -/
def changeCase (expansions : List CaseExpansion) (runs : List CaseRun) (n : Nat) : List Nat :=
  match expansions.find? (·.letter == n) with
  | some e => e.images
  | none => [(runs.findSome? (·.imageOf? n)).getD n]

/-- A character with its case changed to small. -/
def lowerChar (c : Char) : List Char :=
  if c.toNat < 0x80 then [c.toLower]
  else (changeCase smallExpansions smallRuns c.toNat).map Char.ofNat

/-- A character with its case changed to capital. -/
def upperChar (c : Char) : List Char :=
  if c.toNat < 0x80 then [c.toUpper]
  else (changeCase capitalExpansions capitalRuns c.toNat).map Char.ofNat

/-- Whether a character counts as a capital. -/
def isCapital (c : Char) : Bool :=
  if c.toNat < 0x80 then c.isUpper else capitalLetters.any (·.holds c.toNat)

/-- Whether a character counts as a small letter. -/
def isSmall (c : Char) : Bool :=
  if c.toNat < 0x80 then c.isLower else smallLetters.any (·.holds c.toNat)

/-- A text with its ASCII capitals made small. -/
def lowerAscii (s : String) : String := String.ofList (s.toList.map Char.toLower)

/-! ## Words -/

/-- The letters between capital and small ones, which stand for two letters or carry an iota. -/
def titleLetters : List (Nat × Nat) :=
  [(0x1C5, 0x1C5), (0x1C8, 0x1C8), (0x1CB, 0x1CB), (0x1F2, 0x1F2), (0x1F88, 0x1F8F),
    (0x1F98, 0x1F9F), (0x1FA8, 0x1FAF), (0x1FBC, 0x1FBC), (0x1FCC, 0x1FCC), (0x1FFC, 0x1FFC)]

/-- Whether a character has case. -/
def isCased (c : Char) : Bool := isCapital c || isSmall c || inRuns titleLetters c.toNat

/-- Whether a character does not interrupt a word. -/
def isPassedOver (c : Char) : Bool := inRuns passedOverRuns c.toNat

/-- Whether a letter with case comes next, apart from characters that are passed over. -/
def letterNext (cs : List Char) : Bool := ((cs.dropWhile isPassedOver).head?.map isCased).getD false

/-- Whether characters end within a word, if they follow characters that do so or do not. -/
def endsInWord (before : Bool) (c : Char) : Bool := if isPassedOver c then before else isCased c

/-- Characters made small, after others that end within a word or do not. -/
def lowerAfter (before : Bool) : List Char → List Char
  | [] => []
  | c :: cs =>
      (if c = 'Σ' then [if before && !letterNext cs then 'ς' else 'σ'] else lowerChar c) ++
        lowerAfter (endsInWord before c) cs

/-- A text with every character made small. -/
def lower (s : String) : String := String.ofList (lowerAfter false s.toList)

section Tests

example : lowerChar 'İ' = ['i', '\u0307'] := by decide
example : upperChar 'ß' = ['S', 'S'] := by decide
example : upperChar 'ž' = ['Ž'] := by decide
example : isCapital 'ǅ' = false ∧ isSmall 'ǅ' = false := by decide
example : lowerAscii "PyTHÖN" = "pythÖn" := by decide
example : lower "ΟΔΟΣ Σ" = "οδος σ" := by decide +kernel
example : lower "ΑΣ'Α" = "ασ'α" := by decide +kernel

end Tests

end SampleForge.Text
