import Mathlib.Data.List.Sort
import SampleForge.NameSet

/-!
# Name sets are sets

Two name sets with the same members are equal (`NameSet.ext`).  So it does not matter in which
order names are inserted, nor how often (`insertAll_comm`, `insertAll_congr`).
-/

namespace SampleForge.NameSet

theorem ext {a b : NameSet} (h : ∀ name, name ∈ a ↔ name ∈ b) : a = b := by
  obtain ⟨as, ha⟩ := a
  obtain ⟨bs, hb⟩ := b
  have hlist : as = bs := ha.eq_of_mem_iff hb h
  subst hlist
  rfl

theorem insertAll_append (set : NameSet) (first rest : List String) :
    set.insertAll (first ++ rest) = (set.insertAll first).insertAll rest :=
  List.foldl_append

theorem insertAll_comm (set : NameSet) (first rest : List String) :
    (set.insertAll first).insertAll rest = (set.insertAll rest).insertAll first := by
  apply ext
  intro name
  rw [mem_insertAll, mem_insertAll, mem_insertAll, mem_insertAll]
  exact or_left_comm

theorem insertAll_congr {first rest : List String} (set : NameSet)
    (h : ∀ name, name ∈ first ↔ name ∈ rest) : set.insertAll first = set.insertAll rest := by
  apply ext
  intro name
  rw [mem_insertAll, mem_insertAll, h]

end SampleForge.NameSet
