/-!
# Maps keyed by text

A *key map* is a list of pairs in strictly ascending order of their keys, so no key occurs twice
and the order of insertion leaves no trace.  Texts are ordered by their characters.  `insert`
puts a value at a key and replaces the value that was there, and no other look-up changes
(`get?_insert_self`, `get?_insert_of_ne`).
-/

namespace SampleForge

/-! ## Ascending lists -/

/-- A list of pairs whose keys ascend strictly. -/
def Ascending {α : Type} (pairs : List (String × α)) : Prop :=
  pairs.Pairwise fun a b => a.1 < b.1

/-- A list of pairs with a value put at a key. -/
def insertPair {α : Type} (key : String) (value : α) : List (String × α) → List (String × α)
  | [] => [(key, value)]
  | (k, v) :: rest =>
      if key < k then (key, value) :: (k, v) :: rest
      else if key = k then (key, value) :: rest
      else (k, v) :: insertPair key value rest

/-- The value at a key of a list of pairs. -/
def findPair? {α : Type} (key : String) : List (String × α) → Option α
  | [] => none
  | (k, v) :: rest => if key = k then some v else findPair? key rest

theorem lt_of_not_lt_of_ne {a b : String} (h : ¬ a < b) (hne : a ≠ b) : b < a := by
  apply Classical.byContradiction
  intro hba
  exact hne (String.le_antisymm (String.not_lt.1 hba) (String.not_lt.1 h))

theorem mem_insertPair {α : Type} {key : String} {value : α} {pair : String × α}
    {pairs : List (String × α)} (h : pair ∈ insertPair key value pairs) :
    pair = (key, value) ∨ pair ∈ pairs := by
  induction pairs with
  | nil => simpa [insertPair] using h
  | cons head rest ih =>
    obtain ⟨k, v⟩ := head
    simp only [insertPair] at h
    split at h
    · simpa using h
    · split at h
      · rcases List.mem_cons.1 h with h | h
        · exact .inl h
        · exact .inr (List.mem_cons_of_mem _ h)
      · rcases List.mem_cons.1 h with h | h
        · exact .inr (h ▸ List.mem_cons_self)
        · exact (ih h).imp id (List.mem_cons_of_mem _)

theorem Ascending.insertPair {α : Type} {key : String} {value : α} {pairs : List (String × α)}
    (h : Ascending pairs) : Ascending (insertPair key value pairs) := by
  induction pairs with
  | nil => simp [SampleForge.insertPair, Ascending]
  | cons head rest ih =>
    obtain ⟨k, v⟩ := head
    obtain ⟨hhead, hrest⟩ := List.pairwise_cons.1 h
    simp only [SampleForge.insertPair]
    split
    · rename_i hlt
      exact List.pairwise_cons.2 ⟨fun pair hp => by
        rcases List.mem_cons.1 hp with rfl | hp
        · exact hlt
        · exact String.lt_trans hlt (hhead pair hp), h⟩
    · split
      · rename_i heq
        subst heq
        exact List.pairwise_cons.2 ⟨hhead, hrest⟩
      · rename_i hnlt hne
        refine List.pairwise_cons.2 ⟨fun pair hp => ?_, ih hrest⟩
        rcases mem_insertPair hp with rfl | hp
        · exact lt_of_not_lt_of_ne hnlt hne
        · exact hhead pair hp

theorem findPair?_insertPair_self {α : Type} (key : String) (value : α)
    (pairs : List (String × α)) :
    findPair? key (insertPair key value pairs) = some value := by
  induction pairs with
  | nil => simp [insertPair, findPair?]
  | cons head rest ih =>
    obtain ⟨k, v⟩ := head
    simp only [insertPair]
    split
    · simp [findPair?]
    · split
      · simp [findPair?]
      · rename_i hne
        simp [findPair?, hne, ih]

theorem findPair?_insertPair_of_ne {α : Type} {key other : String} (value : α)
    (pairs : List (String × α)) (h : other ≠ key) :
    findPair? other (insertPair key value pairs) = findPair? other pairs := by
  induction pairs with
  | nil => simp [insertPair, findPair?, h]
  | cons head rest ih =>
    obtain ⟨k, v⟩ := head
    simp only [insertPair]
    split
    · simp [findPair?, h]
    · split
      · rename_i heq
        subst heq
        simp [findPair?, h]
      · simp only [findPair?, ih]

/-! ## The map -/

/-- A map from texts, as its pairs in ascending order of the keys. -/
structure KeyMap (α : Type) where
  /-- The pairs. -/
  toList : List (String × α)
  /-- Keys ascend strictly. -/
  ascending : Ascending toList
  deriving DecidableEq

namespace KeyMap

variable {α β : Type}

/-- The map with no key. -/
def empty : KeyMap α := ⟨[], List.Pairwise.nil⟩

instance : EmptyCollection (KeyMap α) := ⟨empty⟩

instance : Inhabited (KeyMap α) := ⟨empty⟩

/-- The map with a value put at a key, in the place of the value that was there. -/
def insert (map : KeyMap α) (key : String) (value : α) : KeyMap α :=
  ⟨insertPair key value map.toList, map.ascending.insertPair⟩

/-- The value at a key. -/
def get? (map : KeyMap α) (key : String) : Option α := findPair? key map.toList

/-- Whether the map has a key. -/
def contains (map : KeyMap α) (key : String) : Bool := (map.get? key).isSome

/-- The keys in ascending order. -/
def keys (map : KeyMap α) : List String := map.toList.map (·.1)

/-- The number of keys. -/
def size (map : KeyMap α) : Nat := map.toList.length

/-- Whether the map has no key. -/
def isEmpty (map : KeyMap α) : Bool := map.toList.isEmpty

/-- The map of a list of pairs, where a later pair wins over an earlier one with its key. -/
def ofList (pairs : List (String × α)) : KeyMap α :=
  pairs.foldl (fun map pair => map.insert pair.1 pair.2) empty

/-- The map with every value changed and the keys kept. -/
def mapValues (f : α → β) (map : KeyMap α) : KeyMap β :=
  ⟨map.toList.map fun pair => (pair.1, f pair.2), by
    simpa [Ascending, List.pairwise_map] using map.ascending⟩

@[simp] theorem get?_empty (key : String) : (empty : KeyMap α).get? key = none := rfl

@[simp] theorem get?_insert_self (map : KeyMap α) (key : String) (value : α) :
    (map.insert key value).get? key = some value :=
  findPair?_insertPair_self key value map.toList

theorem get?_insert_of_ne (map : KeyMap α) {key other : String} (value : α) (h : other ≠ key) :
    (map.insert key value).get? other = map.get? other :=
  findPair?_insertPair_of_ne value map.toList h

end KeyMap

section Tests

example : (KeyMap.ofList [("b", 1), ("a", 2), ("b", 3)]).toList = [("a", 2), ("b", 3)] := by
  decide

end Tests

end SampleForge
