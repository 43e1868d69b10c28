import SampleForge.KeyMap

/-!
# Sets of names

A *name set* is a list of texts in strictly ascending order.  `insert` adds a name that is not
there and leaves the set alone otherwise; membership afterwards is what one expects
(`mem_insert`).
-/

namespace SampleForge

/-- A list of names with one more, in order and without repeats. -/
def insertName (name : String) : List String → List String
  | [] => [name]
  | n :: rest =>
      if name < n then name :: n :: rest
      else if name = n then n :: rest
      else n :: insertName name rest

theorem mem_insertName {name other : String} {names : List String} :
    other ∈ insertName name names ↔ other = name ∨ other ∈ names := by
  induction names with
  | nil => simp [insertName]
  | cons n rest ih =>
    simp only [insertName]
    split
    · simp
    · split
      · rename_i heq
        subst heq
        simp
      · simp only [List.mem_cons, ih]
        constructor
        · rintro (h | h | h)
          · exact .inr (.inl h)
          · exact .inl h
          · exact .inr (.inr h)
        · rintro (h | h | h)
          · exact .inr (.inl h)
          · exact .inl h
          · exact .inr (.inr h)

theorem pairwise_insertName {name : String} {names : List String}
    (h : names.Pairwise (· < ·)) : (insertName name names).Pairwise (· < ·) := by
  induction names with
  | nil => simp [insertName]
  | cons n rest ih =>
    obtain ⟨hhead, hrest⟩ := List.pairwise_cons.1 h
    simp only [insertName]
    split
    · rename_i hlt
      exact List.pairwise_cons.2 ⟨fun other ho => by
        rcases List.mem_cons.1 ho with rfl | ho
        · exact hlt
        · exact String.lt_trans hlt (hhead other ho), h⟩
    · split
      · exact h
      · rename_i hnlt hne
        refine List.pairwise_cons.2 ⟨fun other ho => ?_, ih hrest⟩
        rcases mem_insertName.1 ho with rfl | ho
        · exact lt_of_not_lt_of_ne hnlt hne
        · exact hhead other ho

/-- A set of names, in ascending order. -/
structure NameSet where
  /-- The names. -/
  toList : List String
  /-- They ascend strictly. -/
  ascending : toList.Pairwise (· < ·)
  deriving DecidableEq

namespace NameSet

/-- The set without a name. -/
def empty : NameSet := ⟨[], List.Pairwise.nil⟩

instance : EmptyCollection NameSet := ⟨empty⟩

instance : Inhabited NameSet := ⟨empty⟩

instance : Membership String NameSet := ⟨fun set name => name ∈ set.toList⟩

instance (name : String) (set : NameSet) : Decidable (name ∈ set) :=
  inferInstanceAs (Decidable (name ∈ set.toList))

/-- The set with a name added. -/
def insert (set : NameSet) (name : String) : NameSet :=
  ⟨insertName name set.toList, pairwise_insertName set.ascending⟩

/-- The set with several names added. -/
def insertAll (set : NameSet) (names : List String) : NameSet := names.foldl insert set

/-- The set of the names of a list. -/
def ofList (names : List String) : NameSet := empty.insertAll names

/-- The number of names. -/
def size (set : NameSet) : Nat := set.toList.length

/-- Whether two sets have a name in common. -/
def meets (a b : NameSet) : Bool := a.toList.any fun name => decide (name ∈ b)

@[simp] theorem mem_insert {set : NameSet} {name other : String} :
    other ∈ set.insert name ↔ other = name ∨ other ∈ set :=
  mem_insertName

theorem mem_insertAll {set : NameSet} {names : List String} {other : String} :
    other ∈ set.insertAll names ↔ other ∈ names ∨ other ∈ set := by
  induction names generalizing set with
  | nil => simp [insertAll]
  | cons name rest ih =>
    have step : set.insertAll (name :: rest) = (set.insert name).insertAll rest := rfl
    rw [step, ih, mem_insert, List.mem_cons]
    constructor
    · rintro (h | h | h)
      · exact .inl (.inr h)
      · exact .inl (.inl h)
      · exact .inr h
    · rintro ((h | h) | h)
      · exact .inr (.inl h)
      · exact .inl h
      · exact .inr (.inr h)

end NameSet

section Tests

example : (NameSet.ofList ["b", "a", "b"]).toList = ["a", "b"] := by decide
example : (NameSet.ofList ["a", "c"]).meets (NameSet.ofList ["b", "c"]) = true := by decide

end Tests

end SampleForge
