import SampleForge.Binary64
import SampleForge.KeyMap

/-!
# JSON values

A value is one of seven things.  The fields of an object stand in ascending order of their names
and no name occurs twice; `object` builds such a value from fields in any order, where the last of
several fields with one name wins.  Numbers are whole or floating, as they were written.
-/

namespace SampleForge.Json

/-- A JSON value. -/
inductive Value where
  | null
  | bool (b : Bool)
  | int (n : Int)
  | real (x : Binary64)
  | text (s : String)
  | list (items : List Value)
  | object (fields : List (String × Value))
  deriving Inhabited

namespace Value

/-- The object with the given fields, ordered by name. -/
def ofFields (fields : List (String × Value)) : Value :=
  .object (fields.foldl (fun acc field => insertPair field.1 field.2 acc) [])

/-- The list of the given texts. -/
def texts (items : List String) : Value := .list (items.map .text)

/-- A text, or null in its absence. -/
def textOrNull : Option String → Value
  | some s => .text s
  | none => .null

/-- Whether the value is null. -/
def isNull : Value → Bool
  | .null => true
  | _ => false

/-- The field of an object with the given name. -/
def field? (name : String) : Value → Option Value
  | .object fields => findPair? name fields
  | _ => none

end Value

end SampleForge.Json
