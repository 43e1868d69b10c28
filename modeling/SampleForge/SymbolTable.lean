import SampleForge.NameSet
import SampleForge.Policy
import SampleForge.Text.Quoted

/-!
# Symbol tables

A *symbol table* gives every type that a code sample refers to a nickname of its own, and gathers
the import statements that the types need.  Types are told apart by identity.

`reserve` gives a type its nickname.  A type that has one keeps it.  A new leaf takes the first
free candidate: its last segment, then its last two segments joined by `_`, and so on, and after
all segments the joined segments with the least free number from 2 up.  A new collection first
reserves its element, then takes the name that the policy makes of the nickname of the element,
again with a number if need be.

* The nicknames in use are those of the entries (`taken`).
* `firstFree` looks for the number.  A number that is in use is dropped from the names still to be
  avoided, so the search ends after as many steps as there are names.
* A type adds its imports only when it gets its nickname.
-/

namespace SampleForge

open Text (joinWith quoted)

/-! ## Free names -/

/-- A name with the least number from `n` up that keeps it out of a list of names. -/
def firstFree (base : String) (n : Nat) (names : List String) : String :=
  let candidate := base ++ Nat.repr n
  if h : candidate ∈ names then firstFree base (n + 1) (names.erase candidate) else candidate
termination_by names.length
decreasing_by
  have hpos : 0 < names.length := List.length_pos_of_mem h
  rw [List.length_erase_of_mem h]
  omega

/-- A name, with the least number from 2 up if the name itself is in use. -/
def freeName (base : String) (names : List String) : String :=
  if base ∈ names then firstFree base 2 names else base

/-- The last `n` members of a list, joined by underscores. -/
def joinLast (n : Nat) (segments : List String) : String :=
  joinWith "_" (segments.drop (segments.length - n))

/-- The first free candidate of a leaf: the join of its last segments, from `n` of them up while
there are `more`, or the numbered join of all. -/
def leafName (segments names : List String) (n : Nat) : Nat → String
  | 0 => firstFree (joinWith "_" segments) 2 names
  | more + 1 =>
      let candidate := joinLast n segments
      if candidate ∈ names then leafName segments names (n + 1) more else candidate

/-! ## Tables -/

/-- The nicknames and imports of a code sample. -/
structure SymbolTable where
  /-- What decides about imports. -/
  policy : ImportPolicy
  /-- The types and their nicknames, in the order in which they were reserved. -/
  entries : List (TypeRef × String) := []
  /-- The import statements. -/
  imports : NameSet := ∅
  /-- How often a reservation was asked for. -/
  requests : Nat := 0
  deriving DecidableEq

namespace SymbolTable

/-- The table with nothing in it. -/
def empty (policy : ImportPolicy) : SymbolTable := { policy }

/-- The nicknames in use. -/
def taken (table : SymbolTable) : List String := table.entries.map (·.2)

/-- The nickname of a type that has one: that of its last entry. -/
def nickname? (table : SymbolTable) (t : TypeRef) : Option String :=
  (table.entries.findRev? fun entry => entry.1.sameAs t).map (·.2)

/-- The table with a new entry and the imports of its type. -/
def record (table : SymbolTable) (t : TypeRef) (nickname : String) : SymbolTable :=
  { table with
    entries := table.entries ++ [(t, nickname)]
    imports := table.imports.insertAll (table.policy.imports t) }

/-- Gives a type its nickname, without counting the request. -/
def assign (table : SymbolTable) (t : TypeRef) : String × SymbolTable :=
  match table.nickname? t with
  | some nickname => (nickname, table)
  | none =>
      match t with
      | .leaf _ _ =>
          let nickname := leafName t.segments table.taken 1 t.segments.length
          (nickname, table.record t nickname)
      | .collection _ element =>
          let (elementName, table) := table.assign element
          let nickname := freeName (table.policy.collectionNickname elementName) table.taken
          (nickname, table.record t nickname)

/-- Gives a type its nickname. -/
def reserve (table : SymbolTable) (t : TypeRef) : String × SymbolTable :=
  { table with requests := table.requests + 1 }.assign t

/-- The table after several reservations. -/
def reserveAll (table : SymbolTable) (types : List TypeRef) : SymbolTable :=
  types.foldl (fun table t => (table.reserve t).2) table

/-- The table with an import statement of its own, and whether the statement is new. -/
def addImport (table : SymbolTable) (statement : String) : Bool × SymbolTable :=
  (decide (statement ∉ table.imports),
    { table with imports := table.imports.insert statement })

/-! ## A table as text -/

/-- The name of a kind in the form of a constructor. -/
def kindTitle : TypeKind → String
  | .leaf .message => "Message"
  | .leaf .enumeration => "Enum"
  | .leaf .primitive => "Primitive"
  | .collection => "Collection"

/-- All parts of a type as text. -/
def describeType : TypeRef → String
  | .leaf kind identity =>
      "TypeRef \x7b identity: " ++ quoted identity ++ ", kind: " ++ kindTitle (.leaf kind) ++
        ", element: None \x7d"
  | .collection identity element =>
      "TypeRef \x7b identity: " ++ quoted identity ++ ", kind: " ++ kindTitle .collection ++
        ", element: Some(" ++ describeType element ++ ") \x7d"

/-- All parts of a table as text, for a person who looks for a mistake. -/
def describe (table : SymbolTable) : String :=
  "SymbolTable \x7b language: " ++ table.policy.language.title ++ ", entries: [" ++
    joinWith ", " (table.entries.map fun entry =>
      "(" ++ describeType entry.1 ++ ", " ++ quoted entry.2 ++ ")") ++
    "], imports: \x7b" ++ joinWith ", " (table.imports.toList.map quoted) ++ "\x7d \x7d"

section Tests

example : ((empty (.java none)).reserveAll [.leaf .message "a.B", .leaf .message "c.B"]).taken =
    ["B", "c_B"] := by decide +kernel
example : firstFree "x" 2 ["x2", "x3"] = "x4" := by decide +kernel
example : ((empty (.python "p")).reserve (.collection "Bs" (.leaf .message "a.B"))).1 =
    "list[B]" := by decide +kernel

end Tests

end SymbolTable

end SampleForge
