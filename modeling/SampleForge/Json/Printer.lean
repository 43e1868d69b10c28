import SampleForge.Json.Value
import SampleForge.Text.Quoted

/-!
# Writing JSON

Two layouts of a value: `compact` on one line with no space, and `pretty` with one member to a line
and an indent of two spaces.  An empty list or object stands on one line in both.

Of the characters of a text, the quote, the backslash and the control characters below the space
are escaped, and no other.
-/

namespace SampleForge.Json

open SampleForge.Text (padded)

/-- One character inside a quoted text. -/
def escapeChar (c : Char) : List Char :=
  match c with
  | '"' => ['\\', '"']
  | '\\' => ['\\', '\\']
  | '\n' => ['\\', 'n']
  | '\r' => ['\\', 'r']
  | '\t' => ['\\', 't']
  | '\x08' => ['\\', 'b']
  | '\x0c' => ['\\', 'f']
  | c => if c.toNat < 0x20 then '\\' :: 'u' :: padded 16 4 c.toNat else [c]

/-- A text between quotes. -/
def quoteText (s : String) : String :=
  "\"" ++ String.ofList (s.toList.flatMap escapeChar) ++ "\""

mutual

/-- A value on one line. -/
def Value.compact : Value → String
| .null => "null"
| .bool b => if b then "true" else "false"
| .int n => if n < 0 then "-" ++ Nat.repr n.natAbs else Nat.repr n.natAbs
| .real x => x.scientific
| .text s => quoteText s
| .list items => "[" ++ compactItems items ++ "]"
| .object fields => "\x7b" ++ compactFields fields ++ "\x7d"

/-- The members of a list, with commas between them. -/
def compactItems : List Value → String
| [] => ""
| [v] => v.compact
| v :: w :: rest => v.compact ++ "," ++ compactItems (w :: rest)

/-- The members of an object, with commas between them. -/
def compactFields : List (String × Value) → String
| [] => ""
| [(k, v)] => quoteText k ++ ":" ++ v.compact
| (k, v) :: field :: rest =>
    quoteText k ++ ":" ++ v.compact ++ "," ++ compactFields (field :: rest)

end

/-- A new line with `depth` steps of indent. -/
def newline (depth : Nat) : String := "\n" ++ String.ofList (List.replicate (2 * depth) ' ')

mutual

/-- A value over several lines, from a line that is `depth` steps in. -/
def Value.prettyAt (depth : Nat) : Value → String
| .list [] => "[]"
| .object [] => "\x7b\x7d"
| .list (v :: rest) =>
    "[" ++ newline (depth + 1) ++ v.prettyAt (depth + 1) ++ prettyItems (depth + 1) rest ++
      newline depth ++ "]"
| .object ((k, v) :: rest) =>
    "\x7b" ++ newline (depth + 1) ++ quoteText k ++ ": " ++ v.prettyAt (depth + 1) ++
      prettyFields (depth + 1) rest ++ newline depth ++ "\x7d"
| .null => "null"
| .bool b => (Value.bool b).compact
| .int n => (Value.int n).compact
| .real x => (Value.real x).compact
| .text s => quoteText s

/-- The later members of a list, each after a comma and a new line. -/
def prettyItems (depth : Nat) : List Value → String
| [] => ""
| v :: rest => "," ++ newline depth ++ v.prettyAt depth ++ prettyItems depth rest

/-- The later members of an object, each after a comma and a new line. -/
def prettyFields (depth : Nat) : List (String × Value) → String
| [] => ""
| (k, v) :: rest =>
    "," ++ newline depth ++ quoteText k ++ ": " ++ v.prettyAt depth ++ prettyFields depth rest

end

/-- A value over several lines. -/
def Value.pretty (v : Value) : String := v.prettyAt 0

section Tests

example : (Value.object [("a", .list [.int 1, .null]), ("b", .text "x\n")]).compact =
    "\x7b\"a\":[1,null],\"b\":\"x\\n\"\x7d" := by decide +kernel
example : (Value.list [.bool true, .object []]).pretty = "[\n  true,\n  \x7b\x7d\n]" := by
  decide +kernel

end Tests

end SampleForge.Json
