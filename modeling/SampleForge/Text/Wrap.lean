import SampleForge.Text.Pieces
import SampleForge.Text.Width

/-!
# Breaking lines

A line that takes more columns than there are is broken at its spaces (`wrap`).  Words stand on a
line as long as they fit, and a line with less than two columns to spare is full.  A word that is
wider than any line is cut where a line ends.
-/

namespace SampleForge.Text

/-- The characters in front that fit in some columns, and the rest. -/
def cutColumns (columns : Nat) : List Char → List Char × List Char
  | [] => ([], [])
  | c :: cs =>
      let needed := width (String.singleton c)
      if needed ≤ columns then
        let cut := cutColumns (columns - needed) cs
        (c :: cut.1, cut.2)
      else ([], c :: cs)

/-- A word cut where a line ends.  A line of its own takes one character at least. -/
def cutWord (columns : Nat) (fresh : Bool) (word : String) : String × String :=
  match cutColumns columns word.toList, fresh with
  | ([], c :: cs), true => (String.singleton c, String.ofList cs)
  | (front, rest), _ => (String.ofList front, String.ofList rest)

/-- The lines of some words.  The first line is begun and takes some columns already. -/
def wrapWords (columns : Nat) : Nat → String → Nat → List String → List String
  | 0, line, _, _ => [line]
  | _ + 1, line, _, [] => if line = "" then [] else [line]
  | fuel + 1, line, used, word :: words =>
      let start := if line = "" then "" else line ++ " "
      let taken := if line = "" then 0 else used + 1
      let needed := width word
      if taken + needed ≤ columns then
        if columns < taken + needed + 2 then
          (start ++ word) :: wrapWords columns fuel "" 0 words
        else wrapWords columns fuel (start ++ word) (taken + needed) words
      else if line ≠ "" && columns ≤ taken + 2 then
        line :: wrapWords columns fuel "" 0 (word :: words)
      else if columns < needed then
        let (front, rest) := cutWord (columns - taken) (line = "") word
        (start ++ front) :: wrapWords columns fuel "" 0 (rest :: words)
      else if columns < needed + 2 then line :: word :: wrapWords columns fuel "" 0 words
      else line :: wrapWords columns fuel word needed words

/-- The lines that a line is broken into, each of them in some columns. -/
def wrap (columns : Nat) (line : String) : List String :=
  if width line ≤ columns then [line]
  else wrapWords columns (4 * line.length + 3) "" 0 (split ' ' line)

section Tests

example : wrap 5 "ab cd" = ["ab cd"] := by decide +kernel
example : wrap 5 "ab cdefgh i" = ["ab", "cdefg", "h i"] := by decide +kernel
example : wrap 8 "ab cdefgh i" = ["ab", "cdefgh i"] := by decide +kernel
/-- Enough room is left for a part of the word. -/
example : wrap 8 "ab cdefghijk" = ["ab cdefg", "hijk"] := by decide +kernel

end Tests

end SampleForge.Text
