import SampleForge.Text.Digits
import SampleForge.Text.Pieces

/-!
# Writing TOML

A document of plain fields, followed by a list of tables with plain fields of their own.

A text is written in the first of these forms that suits it.

1. A basic text, if no character needs an escape.
2. A literal text, if it has no single quote.
3. A basic text over several lines, if no character needs an escape there.
4. A literal text over several lines.
5. A basic text with escapes, over several lines if the text has several.

Forms 2 and 4 leave out texts with control characters, which only an escape can write.  In forms 3
and 4 at most two quotes may follow each other, since three end the text.
-/

namespace SampleForge.Toml

open Text (joinWith padded)

/-! ## Texts -/

/-- Whether a character can be written only by an escape. -/
def needsCode (c : Char) : Bool :=
  c ≠ '\t' && c ≠ '\n' && (c.toNat < 0x20 || c = '\x7f')

/-- The length of the longest run of a character, where `run` of them came just before. -/
def longestRun (mark : Char) (run : Nat) : List Char → Nat
  | [] => run
  | c :: cs => if c = mark then longestRun mark (run + 1) cs else max run (longestRun mark 0 cs)

/-- The digits of a code point in an escape. -/
def codeDigits (n : Nat) : List Char := (padded 16 4 n).map Char.toUpper

/-- The characters of a basic text.  At most `allowed` quotes may follow each other bare, and `run`
of them came just before.  A line break stands as it is when quotes may be bare. -/
def basicChars (allowed run : Nat) : List Char → List Char
  | [] => []
  | c :: cs =>
      if c = '"' then
        if run < allowed then '"' :: basicChars allowed (run + 1) cs
        else '\\' :: '"' :: basicChars allowed 0 cs
      else
        (match c with
          | '\x08' => ['\\', 'b']
          | '\t' => ['\\', 't']
          | '\n' => if allowed = 0 then ['\\', 'n'] else ['\n']
          | '\x0c' => ['\\', 'f']
          | '\r' => ['\\', 'r']
          | '\\' => ['\\', '\\']
          | c => if needsCode c then '\\' :: 'u' :: codeDigits c.toNat else [c]) ++
          basicChars allowed 0 cs

/-- A text between marks, after a line break if it has one itself. -/
def overLines (mark : String) (broken : Bool) (body : List Char) : String :=
  mark ++ (if broken then "\n" else "") ++ String.ofList body ++ mark

/-- The written form of a text. -/
def writeText (s : String) : String :=
  let cs := s.toList
  let coded := cs.any needsCode
  let broken := cs.contains '\n'
  let slashed := cs.contains '\\'
  if !coded && !slashed && !cs.contains '"' && !broken then
    "\"" ++ String.ofList (basicChars 0 0 cs) ++ "\""
  else if !coded && !cs.contains '\'' && !broken then "'" ++ s ++ "'"
  else if !coded && !slashed && longestRun '"' 0 cs ≤ 2 then
    overLines "\"\"\"" broken (basicChars 2 0 cs)
  else if !coded && longestRun '\'' 0 cs ≤ 2 then overLines "'''" broken cs
  else if broken then overLines "\"\"\"" true (basicChars 2 0 cs)
  else "\"" ++ String.ofList (basicChars 0 0 cs) ++ "\""

/-! ## Documents -/

/-- The value of a plain field. -/
inductive Plain where
  | number (n : Nat)
  | text (s : String)
  | texts (items : List String)

/-- The written form of a plain value. -/
def Plain.write : Plain → String
  | .number n => Nat.repr n
  | .text s => writeText s
  | .texts items => "[" ++ joinWith ", " (items.map writeText) ++ "]"

/-- The lines of plain fields. -/
def writeFields (fields : List (String × Plain)) : String :=
  String.join (fields.map fun field => field.1 ++ " = " ++ field.2.write ++ "\n")

/-- Plain fields and a list of tables. -/
structure Document where
  /-- The plain fields. -/
  fields : List (String × Plain)
  /-- The name of the list of tables. -/
  listName : String
  /-- The plain fields of each table. -/
  tables : List (List (String × Plain))

/-- The text of a document.  An empty list of tables is written as a field. -/
def Document.write (doc : Document) : String :=
  writeFields doc.fields ++
    if doc.tables.isEmpty then doc.listName ++ " = []\n"
    else
      String.join (doc.tables.map fun table =>
        "\n[[" ++ doc.listName ++ "]]\n" ++ writeFields table)

section Tests

example : writeText "a\"b" = "'a\"b'" := by decide +kernel
example : writeText "a\nb" = "\"\"\"\na\nb\"\"\"" := by decide +kernel
example : writeText "\x01'" = "\"\\u0001'\"" := by decide +kernel
example : Document.write ⟨[("a", .texts ["x", "y"])], "t", [[("b", .number 3)]]⟩ =
    "a = [\"x\", \"y\"]\n\n[[t]]\nb = 3\n" := by decide +kernel

end Tests

end SampleForge.Toml
