import SampleForge.Text.ShapeTable
import SampleForge.Text.Blank
import SampleForge.Text.Digits

/-!
# Quoted text

The quoted form of a text in messages: between double quotes, with the quote, the backslash and
everything that would not show as itself written as an escape.  Common control characters have
escapes of one letter, the others and the extending characters are written `\u{…}` with the least
number of hexadecimal digits.
-/

namespace SampleForge.Text

/-- Whether a character shows as itself in the quoted form. -/
def isPlain (c : Char) : Bool :=
  if c.toNat < 0x7F then 0x20 ≤ c.toNat
  else !(inRuns unprintableRuns c.toNat || inRuns extendingRuns c.toNat)

/-- One character of the quoted form. -/
def quotedChar (c : Char) : List Char :=
  match c with
  | '\x00' => ['\\', '0']
  | '\t' => ['\\', 't']
  | '\n' => ['\\', 'n']
  | '\r' => ['\\', 'r']
  | '"' => ['\\', '"']
  | '\\' => ['\\', '\\']
  | c => if isPlain c then [c] else ['\\', 'u', '\x7b'] ++ hexChars c.toNat ++ ['\x7d']

/-- The quoted form of a text. -/
def quoted (s : String) : String :=
  "\"" ++ String.ofList (s.toList.flatMap quotedChar) ++ "\""

section Tests

example : quoted "a\"b\\" = "\"a\\\"b\\\\\"" := by decide +kernel
example : quoted "\u3164" = "\"\\u\x7b3164\x7d\"" := by decide +kernel
example : quoted "\u200b\n" = "\"\\u\x7b200b\x7d\\n\"" := by decide +kernel

end Tests

end SampleForge.Text
