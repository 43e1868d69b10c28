/-!
# Blank characters

A character is *blank* when it has the `White_Space` property of the Unicode character database.
The zero width space and the byte order mark are not blank.  Every character that the core
library calls whitespace is (`isBlank_of_isWhitespace`).

`trim` drops the blank characters at both ends of a text.
-/

namespace SampleForge.Text

/-- Whether a code point lies in one of the runs, both ends included. -/
def inRuns (runs : List (Nat × Nat)) (n : Nat) : Bool :=
  runs.any fun run => run.1 ≤ n && n ≤ run.2

/-- The blank characters, as runs of code points. -/
def blankRuns : List (Nat × Nat) :=
  [(0x9, 0xD), (0x20, 0x20), (0x85, 0x85), (0xA0, 0xA0), (0x1680, 0x1680), (0x2000, 0x200A),
    (0x2028, 0x2029), (0x202F, 0x202F), (0x205F, 0x205F), (0x3000, 0x3000)]

/-- Whether a character is blank. -/
def isBlank (c : Char) : Bool := inRuns blankRuns c.toNat

theorem isBlank_of_isWhitespace {c : Char} (h : c.isWhitespace = true) : isBlank c = true := by
  simp only [Char.isWhitespace, Bool.or_eq_true, decide_eq_true_eq] at h
  rcases h with ((rfl | rfl) | rfl) | rfl <;> decide

/-- The characters without the blank ones in front. -/
def trimLeft (cs : List Char) : List Char := cs.dropWhile isBlank

/-- The characters without the blank ones at the end. -/
def trimRight (cs : List Char) : List Char := (trimLeft cs.reverse).reverse

/-- The text without the blank characters at both ends. -/
def trim (s : String) : String := String.ofList (trimRight (trimLeft s.toList))

section Tests

example : trim " \t a b \n" = "a b" := by decide
example : trim "\u2003 \u3000" = "" := by decide
example : isBlank '\u200b' = false := by decide

end Tests

end SampleForge.Text
