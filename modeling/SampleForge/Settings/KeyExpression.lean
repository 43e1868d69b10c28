import SampleForge.Settings.Entry
import SampleForge.Text.Digits

/-!
# Key expressions

Sources name their entries by *key expressions*: a name, and then steps to a member (`.name`) or to
an item (`[n]`, from the end if `n` is negative).  A key that is no expression is a plain name.

`write` puts an entry at the end of an expression.  Whatever is missing on the way, or of the wrong
kind for the next step, is made.  `writeKey` writes a key small before it is read as an expression,
so case never tells two names apart.
-/

namespace SampleForge

open Text (decimalValue fitting?)

/-- A step of a key expression. -/
inductive KeyMove where
  | name (s : String)
  | item (n : Int)
  deriving DecidableEq, Repr

namespace KeyMove

/-- Whether a character may stand in a name. -/
def isNameChar (c : Char) : Bool := c.isAlphanum || c = '_' || c = '-' || c = ' '

/-- A name, and what follows it. -/
def name? (cs : List Char) : Option (KeyMove × List Char) :=
  let name := cs.takeWhile isNameChar
  if name.isEmpty then none else some (.name (String.ofList name), cs.drop name.length)

/-- Whether a character may stand around a number. -/
def isPadding (c : Char) : Bool := c = ' ' || c = '\t'

/-- A number of 64 bits after an opening bracket, and what follows the closing one. -/
def item? (cs : List Char) : Option (KeyMove × List Char) :=
  let (negative, cs) :=
    match cs.dropWhile isPadding with
    | '-' :: cs => (true, cs)
    | cs => (false, cs)
  let digits := cs.takeWhile Char.isDigit
  match (cs.drop digits.length).dropWhile isPadding with
  | ']' :: rest =>
      if digits.isEmpty then none
      else (fitting? negative (decimalValue digits)).map fun n => (.item n, rest)
  | _ => none

/-- The steps after the first name, at most `count` of them. -/
def moves? : Nat → List Char → Option (List KeyMove)
  | _, [] => some []
  | 0, _ => none
  | count + 1, '.' :: cs => do
      let (move, rest) ← name? cs
      return move :: (← moves? count rest)
  | count + 1, '[' :: cs => do
      let (move, rest) ← item? cs
      return move :: (← moves? count rest)
  | _, _ => none

/-- The steps of a key. -/
def parse (key : String) : List KeyMove :=
  let moves := do
    let (move, rest) ← name? key.toList
    return move :: (← moves? rest.length rest)
  moves.getD [.name key]

end KeyMove

namespace Entry

/-- The entry with another put at the end of some steps. -/
def write (value : Entry) : List KeyMove → Entry → Entry
  | [], _ => value
  | [.name name], root => put name root value
  | [.item n], root => root.updateItem n fun _ => value
  | .name name :: rest, root => set name (write value rest ((root.member? name).getD nothing)) root
  | .item n :: rest, root => root.updateItem n (write value rest)

/-- The entry with another put at a key, in which case does not matter. -/
def writeKey (root : Entry) (key : String) (value : Entry) : Entry :=
  write value (KeyMove.parse (Text.lower key)) root

/-- The entry with named entries put at their keys. -/
def writeAll (root : Entry) (entries : List (String × Entry)) : Entry :=
  entries.foldl (fun root e => root.writeKey e.1 e.2) root

end Entry

section Tests

example : KeyMove.parse "a.b[0][-1]" = [.name "a", .name "b", .item 0, .item (-1)] := by
  decide +kernel
example : KeyMove.parse "a..b" = [.name "a..b"] := by decide +kernel
example : KeyMove.parse "Foo::Bar" = [.name "Foo::Bar"] := by decide +kernel

end Tests

end SampleForge
