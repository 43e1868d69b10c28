import SampleForge.Json.Value
import SampleForge.Text.Case
import SampleForge.Text.Digits
import SampleForge.Toml.Value

/-!
# Entries of settings

What the sources of settings say, before it is known which setting is which.  An entry is a leaf, a
list, or a group of named entries.  Leaves and lists know the source that they come from, so that
messages can name it.

`put` merges an entry into a group under a name.

* Names are written small.
* A group is merged into what stands under the name, member by member.  Anything else takes the
  place of what stands there.
* So a group without members changes nothing, and a group with members turns a leaf into a group.
-/

namespace SampleForge

/-- What a leaf holds. -/
inductive Leaf where
  | nothing
  | bool (b : Bool)
  | int (n : Int)
  | real (x : Binary64)
  | text (s : String)
  deriving DecidableEq

/-- An entry.  The origin is the source it comes from, if that is known. -/
inductive Entry where
  | leaf (origin : Option String) (value : Leaf)
  | list (origin : Option String) (items : List Entry)
  | group (origin : Option String) (members : List (String × Entry))
  deriving Inhabited

namespace Entry

/-- The entry of a place that nothing was put at. -/
def nothing : Entry := .leaf none .nothing

/-- The group without members. -/
def emptyGroup : Entry := .group none []

/-- The members of a group.  Anything else has none. -/
def members : Entry → List (String × Entry)
  | .group _ members => members
  | _ => []

/-- The items of a list.  Anything else has none. -/
def items : Entry → List Entry
  | .list _ items => items
  | _ => []

/-- The entry with something put under a name.  What is no group becomes one. -/
def set (name : String) (value : Entry) : Entry → Entry
  | .group origin members => .group origin (insertPair name value members)
  | _ => .group none [(name, value)]

/-- The member with a name. -/
def member? (name : String) (entry : Entry) : Option Entry := findPair? name entry.members

/-! ## Merging -/

mutual
/-- The entry with another merged into it under a name. -/
def put (name : String) (root : Entry) : Entry → Entry
  | .group _ incoming =>
      let small := Text.lower name
      set small (putAll ((root.member? small).getD emptyGroup) incoming) root
  | .leaf origin value => set (Text.lower name) (.leaf origin value) root
  | .list origin items => set (Text.lower name) (.list origin items) root
termination_by structural value => value

/-- The entry with named entries merged into it. -/
def putAll (root : Entry) : List (String × Entry) → Entry
  | [] => root
  | (name, value) :: rest => putAll (put name root value) rest
termination_by structural members => members
end

/-! ## Lists -/

/-- The place in a list of the given length that a number means.  Negative numbers count from the
end. -/
def placeOf (length : Nat) (n : Int) : Nat := (if 0 ≤ n then n else length + n).toNat

/-- The entry with one item of its list changed.  What is no list becomes one, and missing items
are filled in. -/
def updateItem (n : Int) (f : Entry → Entry) (entry : Entry) : Entry :=
  let place := placeOf entry.items.length n
  let filled := entry.items ++ List.replicate (place + 1 - entry.items.length) nothing
  let changed := filled.set place (f (filled[place]?.getD nothing))
  match entry with
  | .list origin _ => .list origin changed
  | _ => .list none changed

/-! ## From files -/

mutual
/-- The entry of a TOML value. -/
def ofToml (origin : String) : Toml.Value → Entry
  | .text s => .leaf (some origin) (.text s)
  | .int n => .leaf (some origin) (.int n)
  | .real x => .leaf (some origin) (.real x)
  | .bool b => .leaf (some origin) (.bool b)
  | .moment s => .leaf (some origin) (.text s)
  | .list items => .list (some origin) (ofTomlItems origin items)
  | .table members => .group (some origin) (ofTomlMembers origin members)
termination_by structural value => value

/-- The entries of a list of TOML values. -/
def ofTomlItems (origin : String) : List Toml.Value → List Entry
  | [] => []
  | v :: rest => ofToml origin v :: ofTomlItems origin rest
termination_by structural items => items

/-- The entries of the members of a TOML table. -/
def ofTomlMembers (origin : String) : List (String × Toml.Value) → List (String × Entry)
  | [] => []
  | (key, v) :: rest => (key, ofToml origin v) :: ofTomlMembers origin rest
termination_by structural members => members
end

/-- The leaf of a whole number.  What does not fit in 64 bits with a sign is a floating number. -/
def ofInt (n : Int) : Leaf :=
  if n < Text.signedLimit then .int n else .real ⟨Binary64.nearest n.toNat 1⟩

mutual
/-- The entry of a JSON value. -/
def ofJson (origin : String) : Json.Value → Entry
  | .null => .leaf (some origin) .nothing
  | .bool b => .leaf (some origin) (.bool b)
  | .int n => .leaf (some origin) (ofInt n)
  | .real x => .leaf (some origin) (.real x)
  | .text s => .leaf (some origin) (.text s)
  | .list items => .list (some origin) (ofJsonItems origin items)
  | .object fields => .group (some origin) (ofJsonFields origin fields)
termination_by structural value => value

/-- The entries of a list of JSON values. -/
def ofJsonItems (origin : String) : List Json.Value → List Entry
  | [] => []
  | v :: rest => ofJson origin v :: ofJsonItems origin rest
termination_by structural items => items

/-- The entries of the fields of a JSON object. -/
def ofJsonFields (origin : String) : List (String × Json.Value) → List (String × Entry)
  | [] => []
  | (name, v) :: rest => (name, ofJson origin v) :: ofJsonFields origin rest
termination_by structural fields => fields
end

end Entry

end SampleForge
