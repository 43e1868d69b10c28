import Mathlib
import SampleForge.SymbolTable

/-!
# Free names

What a new type is called is not in use yet.  `firstFree` gives the name with the least number that
keeps it out of a list of names (`firstFree_eq`), although it drops every name that it has met from
the list: names with different numbers differ, so a dropped name is never met again.

`leafName` and `freeName` take either a candidate that is free or a numbered one.  None of the three
depends on the order of the names in use, nor on how often one occurs (`firstFree_congr`).
-/

namespace SampleForge

/-- A name with different numbers behind it gives different names. -/
theorem numbered_inj {base : String} {m n : Nat} : base ++ m.repr = base ++ n.repr ↔ m = n := by
  rw [String.append_right_inj, Nat.repr_inj]

/-- The number is the least one from `n` up that gives a free name. -/
theorem firstFree_eq (base : String) (n : Nat) (names : List String) :
    ∃ k, n ≤ k ∧ firstFree base n names = base ++ k.repr ∧ base ++ k.repr ∉ names ∧
      ∀ m, n ≤ m → m < k → base ++ m.repr ∈ names := by
  fun_induction firstFree base n names with
  | case1 n names candidate hmem ih =>
    obtain ⟨k, hle, heq, hfree, hleast⟩ := ih
    refine ⟨k, Nat.le_of_succ_le hle, heq, ?_, ?_⟩
    · -- What is erased has the number `n`, and `k` is greater.
      intro hk
      have hne : base ++ k.repr ≠ candidate := fun h =>
        Nat.ne_of_gt hle (numbered_inj.1 h)
      exact hfree ((List.mem_erase_of_ne hne).2 hk)
    · intro m hm hlt
      rcases Nat.eq_or_lt_of_le hm with rfl | hm
      · exact hmem
      · exact List.mem_of_mem_erase (hleast m hm hlt)
  | case2 n names candidate hnot =>
    refine ⟨n, Nat.le_refl n, rfl, hnot, ?_⟩
    intro m hm hlt
    exact absurd hlt (Nat.not_lt.2 hm)

theorem firstFree_not_mem (base : String) (n : Nat) (names : List String) :
    firstFree base n names ∉ names := by
  obtain ⟨k, _, heq, hfree, _⟩ := firstFree_eq base n names
  rw [heq]
  exact hfree

theorem freeName_not_mem (base : String) (names : List String) : freeName base names ∉ names := by
  rw [freeName]
  split
  · exact firstFree_not_mem base 2 names
  · rename_i hfree
    exact hfree

/-- The name of a new leaf is free, whichever candidate it is. -/
theorem leafName_not_mem (segments names : List String) (n more : Nat) :
    leafName segments names n more ∉ names := by
  induction more generalizing n with
  | zero => exact firstFree_not_mem _ 2 names
  | succ more ih =>
    rw [leafName]
    split
    · exact ih (n + 1)
    · rename_i hfree
      exact hfree

/-! ## Names in use as a set -/

/-- Two searches go in step if they meet names in use at the same numbers. -/
theorem firstFree_in_step {base other : String} {names others : List String}
    (h : ∀ k : Nat, base ++ k.repr ∈ names ↔ other ++ k.repr ∈ others) (n : Nat) :
    ∃ k : Nat, firstFree base n names = base ++ k.repr ∧
      firstFree other n others = other ++ k.repr := by
  obtain ⟨k, hk, heq, hfree, hleast⟩ := firstFree_eq base n names
  obtain ⟨j, hj, heq', hfree', hleast'⟩ := firstFree_eq other n others
  have hkj : k = j := by
    rcases Nat.lt_trichotomy k j with hlt | hsame | hlt
    · exact absurd ((h k).2 (hleast' k hk hlt)) hfree
    · exact hsame
    · exact absurd ((h j).1 (hleast j hj hlt)) hfree'
  exact ⟨k, heq, hkj ▸ heq'⟩

section Congruence

variable {names others : List String} (h : ∀ name, name ∈ names ↔ name ∈ others)

include h

/-- The least free number is the same for lists with the same names. -/
theorem firstFree_congr (base : String) (n : Nat) :
    firstFree base n names = firstFree base n others := by
  obtain ⟨k, hk, hother⟩ := firstFree_in_step (fun k => h (base ++ k.repr)) n
  rw [hk, hother]

theorem freeName_congr (base : String) : freeName base names = freeName base others := by
  simp only [freeName, h, firstFree_congr h]

theorem leafName_congr (segments : List String) (n more : Nat) :
    leafName segments names n more = leafName segments others n more := by
  induction more generalizing n with
  | zero => exact firstFree_congr h _ 2
  | succ more ih => simp only [leafName, h, ih]

end Congruence

end SampleForge
