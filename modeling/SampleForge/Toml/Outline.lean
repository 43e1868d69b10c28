import SampleForge.Toml.Value

/-!
# Outlines of TOML documents

While a document is read, its tables are kept with the way in which they came about (`Form`), since
that decides what may still be added to them.

* A header names a table once.  A table that is only on the way to others may be named later.
* A key of several parts makes the tables on its way.  Only such keys may add to them, and such
  keys may not add to a table with a header.
* A header in double brackets adds a table to a list of tables.  Whatever goes through the list
  goes to its last table.

`change?` follows a path from a table and changes the table at its end.

The members of a table stand in the order in which they were begun.  A header that names a table
which was on the way to others begins it anew.
-/

namespace SampleForge.Toml

/-- How a table came about. -/
inductive Form where
  /-- By a header of its own. -/
  | stated
  /-- On the way of a header. -/
  | implied
  /-- On the way of a key. -/
  | dotted
  deriving DecidableEq

/-- What stands at a key. -/
inductive Item where
  | value (v : Value)
  | table (form : Form) (members : List (String × Item))
  /-- A list of tables, the last one first. -/
  | tables (elements : List Item)

namespace Item

/-- A table with no member. -/
def emptyTable (form : Form) : Item := .table form []

/-! ## Values -/

mutual
/-- The value of an item. -/
def toValue : Item → Value
  | .value v => v
  | .table _ members => .table (membersToValues members)
  | .tables elements => .list (elementsToValues [] elements)
termination_by structural item => item

/-- The values of the members of a table. -/
def membersToValues : List (String × Item) → List (String × Value)
  | [] => []
  | (key, item) :: rest => (key, toValue item) :: membersToValues rest
termination_by structural members => members

/-- The values of items in reverse order, before those already there. -/
def elementsToValues (done : List Value) : List Item → List Value
  | [] => done
  | item :: rest => elementsToValues (toValue item :: done) rest
termination_by structural items => items
end

/-! ## Members -/

/-- Members with an item put at a key: in the place of the item that was there, or at the end. -/
def putMember (key : String) (item : Item) : List (String × Item) → List (String × Item)
  | [] => [(key, item)]
  | (k, old) :: rest =>
      if key = k then (key, item) :: rest else (k, old) :: putMember key item rest

/-- Members with an item put at a key and at the end. -/
def moveMember (key : String) (item : Item) (members : List (String × Item)) :
    List (String × Item) :=
  members.filter (·.1 != key) ++ [(key, item)]

/-! ## Following paths -/

/-- Whether a path may go on into an item.  A path of a key may not enter a table with a header. -/
def admits (viaKey : Bool) : Item → Bool
  | .table .stated _ => !viaKey
  | .table _ _ | .tables _ => true
  | .value _ => false

/-- Changes a table, or the last table of a list. -/
def update? (f : Form → List (String × Item) → Option Item) : Item → Option Item
  | .table form members => f form members
  | .tables (.table form members :: earlier) =>
      (f form members).map fun last => .tables (last :: earlier)
  | _ => none

/-- Changes the table at the end of a path.  Tables that are missing on the way are made. -/
def change? (viaKey : Bool) (f : Form → List (String × Item) → Option Item) :
    List String → Item → Option Item
  | [], item => item.update? f
  | key :: rest, item =>
      item.update? fun form members =>
        let changed :=
          match findPair? key members with
          | none => change? viaKey f rest (emptyTable (if viaKey then .dotted else .implied))
          | some inner => if inner.admits viaKey then change? viaKey f rest inner else none
        changed.map fun inner => .table form (putMember key inner members)

/-! ## Adding -/

/-- Adds a value at a path of keys.  The last key must be free.  A table on the way of a key takes
values only by way of keys, and another table only its own. -/
def addValue? (path : List String) (key : String) (v : Value) (item : Item) : Option Item :=
  item.change? true (fun form members =>
    if (form == .dotted) == path.isEmpty || (findPair? key members).isSome then none
    else some (.table form (putMember key (.value v) members))) path

/-- Adds a table that a header names. -/
def addTable? (path : List String) (key : String) (item : Item) : Option Item :=
  item.change? false (fun form members =>
    match findPair? key members with
    | none => some (.table form (putMember key (emptyTable .stated) members))
    | some (.table .implied inner) =>
        some (.table form (moveMember key (.table .stated inner) members))
    | some _ => none) path

/-- Adds a table to the list of tables that a header in double brackets names. -/
def addElement? (path : List String) (key : String) (item : Item) : Option Item :=
  item.change? false (fun form members =>
    match findPair? key members with
    | none => some (.table form (putMember key (.tables [emptyTable .stated]) members))
    | some (.tables elements) =>
        some (.table form (putMember key (.tables (emptyTable .stated :: elements)) members))
    | some _ => none) path

end Item

section Tests

/-- Two headers, the second on the way of the first. -/
def sampleOutline : Option Item :=
  (Item.emptyTable .stated).addTable? ["a"] "b" >>= Item.addTable? [] "a"

example : sampleOutline.isSome = true := by decide
example : (sampleOutline >>= Item.addTable? [] "a").isNone = true := by decide
example : (sampleOutline >>= Item.addTable? ["a"] "b").isNone = true := by decide
example : (sampleOutline >>= Item.change? false (fun form members =>
    (Item.table form members).addValue? ["b"] "c" (.int 1)) ["a"]).isNone = true := by decide

end Tests

end SampleForge.Toml
