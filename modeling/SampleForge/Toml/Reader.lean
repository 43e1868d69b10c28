import SampleForge.Toml.Moment
import SampleForge.Toml.Number
import SampleForge.Toml.Outline
import SampleForge.Toml.Text

/-!
# Reading TOML

A document is a list of lines.  A line holds a header, a key with its value, or nothing, and then
perhaps a comment.  A value may go on over several lines.

Every function here takes the characters from some place on.  It gives what it has read together
with the characters that follow, or nothing if the document is not well formed there.

Lists and inline tables may nest 79 deep, and a key may have 79 parts.  `readValue?` counts down
the depth that is left.  Its other number bounds the steps, and the length of the document is
enough for it, since every step reads a character.
-/

namespace SampleForge.Toml

/-! ## Gaps and comments -/

/-- The characters without blanks at the start. -/
def skipGaps (cs : List Char) : List Char := cs.dropWhile isGap

/-- The characters without a comment at the start. -/
def skipComment : List Char → List Char
  | '#' :: cs => cs.dropWhile isPrinting
  | cs => cs

/-- The characters after the end of a line, which may hold a comment. -/
def lineEnd? (cs : List Char) : Option (List Char) :=
  match skipComment (skipGaps cs) with
  | [] => some []
  | '\n' :: rest => some rest
  | _ => none

/-- The characters without blanks, line breaks and comments at the start. -/
def skipLines (inComment : Bool) : List Char → List Char
  | [] => []
  | c :: cs =>
      if inComment && isPrinting c then skipLines true cs
      else if c = '\n' || isGap c then skipLines false cs
      else if c = '#' then skipLines true cs
      else c :: cs

/-! ## Keys -/

/-- Whether a character may stand in a key without quotes. -/
def isKeyChar (c : Char) : Bool := c.isAlphanum || c = '_' || c = '-'

/-- One part of a key. -/
def keyPart? (cs : List Char) : Option (String × List Char) :=
  match lineText? cs with
  | some read => some read
  | none =>
      let bare := cs.takeWhile isKeyChar
      if bare.isEmpty then none else some (String.ofList bare, cs.drop bare.length)

/-- The parts of a key, with points between them and blanks around each. -/
def keyParts? : Nat → List Char → Option (List String × List Char)
  | 0, _ => none
  | steps + 1, cs => do
      let (part, rest) ← keyPart? (skipGaps cs)
      match skipGaps rest with
      | '.' :: rest => do
          let (parts, rest) ← keyParts? steps rest
          return (part :: parts, rest)
      | rest => return ([part], rest)

/-- The greatest depth of values, and the greatest number of parts of a key. -/
def deepest : Nat := 79

/-- A key, as its parts on the way and its last part. -/
def key? (cs : List Char) : Option ((List String × String) × List Char) := do
  let (parts, rest) ← keyParts? deepest cs
  return ((parts.dropLast, ← parts.getLast?), rest)

/-- A key and the sign after it. -/
def keySign? (cs : List Char) : Option ((List String × String) × List Char) := do
  let (key, rest) ← key? cs
  match rest with
  | '=' :: rest => return (key, skipGaps rest)
  | _ => none

/-! ## Values -/

/-- A word that stands for a truth value. -/
def truth? : List Char → Option (Value × List Char)
  | 't' :: 'r' :: 'u' :: 'e' :: cs => some (.bool true, cs)
  | 'f' :: 'a' :: 'l' :: 's' :: 'e' :: cs => some (.bool false, cs)
  | _ => none

/-- A value that holds no other. -/
def plain? (cs : List Char) : Option (Value × List Char) :=
  match text? cs with
  | some (s, rest) => some (.text s, rest)
  | none => (truth? cs).or ((moment? cs).or (number? cs))

mutual
/-- A value.  `depth` lists and tables may still open. -/
def readValue? (depth : Nat) : Nat → List Char → Option (Value × List Char)
  | 0, _ => none
  | steps + 1, cs =>
      match cs, depth with
      | '[' :: _, 0 | '\x7b' :: _, 0 => none
      | '[' :: cs, depth + 1 =>
          match skipLines false cs with
          | ']' :: rest => some (.list [], rest)
          | rest => readItems? depth [] steps rest
      | '\x7b' :: cs, depth + 1 =>
          match skipGaps cs with
          | '\x7d' :: rest => some (.table [], rest)
          | rest => readMembers? depth (Item.emptyTable .stated) steps rest
      | cs, _ => plain? cs

/-- The items of a list from one on, after those already read in reverse order. -/
def readItems? (depth : Nat) (done : List Value) :
    Nat → List Char → Option (Value × List Char)
  | 0, _ => none
  | steps + 1, cs => do
      let (v, rest) ← readValue? depth steps cs
      let done := v :: done
      match skipLines false rest with
      | ']' :: rest => return (.list done.reverse, rest)
      | ',' :: rest =>
          match skipLines false rest with
          | ']' :: rest => return (.list done.reverse, rest)
          | rest => readItems? depth done steps rest
      | _ => none

/-- The members of an inline table from one on, added to those already read. -/
def readMembers? (depth : Nat) (done : Item) :
    Nat → List Char → Option (Value × List Char)
  | 0, _ => none
  | steps + 1, cs => do
      let (key, rest) ← keySign? cs
      let (v, rest) ← readValue? depth steps rest
      let done ← done.addValue? key.1 key.2 v
      match skipGaps rest with
      | '\x7d' :: rest => return (done.toValue, rest)
      | ',' :: rest => readMembers? depth done steps rest
      | _ => none
end

/-! ## Documents -/

/-- A document that is being read. -/
structure Draft where
  /-- What was read so far. -/
  root : Item := Item.emptyTable .stated
  /-- The path of the table that values are added to. -/
  header : List String := []

/-- The draft with a value added below the last header. -/
def Draft.addValue? (draft : Draft) (path : List String) (key : String) (v : Value) :
    Option Draft := do
  let root ← draft.root.change? false
    (fun form members => (Item.table form members).addValue? path key v) draft.header
  return { draft with root := root }

/-- A header in double brackets, after the brackets. -/
def elementHeader? (draft : Draft) (cs : List Char) : Option (Draft × List Char) := do
  let (key, rest) ← key? cs
  match rest with
  | ']' :: ']' :: rest =>
      let rest ← lineEnd? rest
      return (⟨← draft.root.addElement? key.1 key.2, key.1 ++ [key.2]⟩, rest)
  | _ => none

/-- A header, after the bracket. -/
def tableHeader? (draft : Draft) (cs : List Char) : Option (Draft × List Char) := do
  let (key, rest) ← key? cs
  match rest with
  | ']' :: rest =>
      let rest ← lineEnd? rest
      return (⟨← draft.root.addTable? key.1 key.2, key.1 ++ [key.2]⟩, rest)
  | _ => none

/-- A line that holds a key and its value. -/
def assignment? (draft : Draft) (cs : List Char) : Option (Draft × List Char) := do
  let (key, rest) ← keySign? cs
  let (v, rest) ← readValue? deepest (2 * rest.length + 2) rest
  let rest ← lineEnd? rest
  return (← draft.addValue? key.1 key.2 v, rest)

/-- One line. -/
def line? (draft : Draft) (cs : List Char) : Option (Draft × List Char) :=
  match skipGaps cs with
  | [] => some (draft, [])
  | '\n' :: rest => some (draft, rest)
  | '#' :: rest => (lineEnd? ('#' :: rest)).map fun rest => (draft, rest)
  | '[' :: '[' :: rest => elementHeader? draft rest
  | '[' :: rest => tableHeader? draft rest
  | rest => assignment? draft rest

/-- The lines of a document, at most `steps` of them. -/
def lines? (draft : Draft) : Nat → List Char → Option Draft
  | _, [] => some draft
  | 0, _ => none
  | steps + 1, cs =>
      match line? draft cs with
      | some (draft, rest) => lines? draft steps rest
      | none => none

/-- The characters with every line break of two characters made one. -/
def oneBreak : List Char → List Char
  | [] => []
  | '\r' :: '\n' :: cs => '\n' :: oneBreak cs
  | c :: cs => c :: oneBreak cs

/-- The characters without a byte order mark at the start. -/
def dropMark : List Char → List Char
  | '\ufeff' :: cs => cs
  | cs => cs

/-- The value that a text describes, if it is well formed: a table or a moment. -/
def read? (s : String) : Option Value := do
  let cs := oneBreak (dropMark s.toList)
  let draft ← lines? {} (cs.length + 1) cs
  draft.root.toValue.settle?

section Tests

/-- The keys and the number at a path of two keys. -/
def sampleLook (s outer inner : String) : Option (List String × Int) := do
  match ← read? s with
  | .table members =>
      match findPair? outer members with
      | some (.table members) =>
          match findPair? inner members with
          | some (.int n) => some (members.map (·.1), n)
          | _ => none
      | _ => none
  | _ => none

example : sampleLook "a.b = 1 # one\r\n[c]\nd = [1,\n 2, ] \ne=5" "c" "e" =
    some (["d", "e"], 5) := by decide +kernel
example : sampleLook "a = \x7bb = 1, c.d = 'x'\x7d" "a" "b" = some (["b", "c"], 1) := by
  decide +kernel
example : (read? "[[a]]\nb = 1\n[[a]]").isSome = true := by decide +kernel
example : (read? "a = 1\na = 2\n").isNone = true := by decide +kernel
example : (read? "a = 01\n").isNone = true := by decide +kernel
example : (read? "[a]\n[a]\n").isNone = true := by decide +kernel
example : (read? "a = \x7bb = 1,\x7d\n").isNone = true := by decide +kernel

end Tests

end SampleForge.Toml
