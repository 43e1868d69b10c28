import SampleForge.Proofs.Files.Tree

/-!
# Filling a directory

A file is laid below a directory by making the directories on the way to it (`pave`) and putting
it at the end.  `Filled` says what this comes to, file by file: the files laid so far and the
directories above them are all that stands below, and the rest of the tree is as it was.

One file more keeps this up as long as no file is on the way to another (`Filled.put`).  That is
also what a file needs to find its way free (`Filled.passable`) and its place empty
(`Filled.free`).
-/

namespace SampleForge.FileTree

/-- A directory with nothing in it. -/
structure EmptyAt (tree : FileTree) (place : Place) : Prop where
  /-- It is a directory. -/
  directory : tree.node? place = some .directory
  /-- Nothing stands below it. -/
  nothing : ∀ names, names ≠ [] → tree.node? (place.below names) = none

/-- Names of which neither lead to the place of the others nor on the way there. -/
def Aside (a b : List String) : Prop := ¬ a <+: b ∧ ¬ b <+: a

/-- Files, given by the names that lead to them and their bytes, are all that has been laid below a
place since a tree was as before. -/
structure Filled (before : FileTree) (place : Place) (files : List (List String × List UInt8))
    (tree : FileTree) : Prop where
  /-- The files below the place are the given ones. -/
  file : ∀ names bytes, names ≠ [] →
    (tree.node? (place.below names) = some (.file bytes) ↔ (names, bytes) ∈ files)
  /-- The directories below the place are those above the files. -/
  directory : ∀ names, names ≠ [] →
    (tree.node? (place.below names) = some .directory ↔
      ∃ file ∈ files, names <+: file.1 ∧ names ≠ file.1)
  /-- What does not stand below the place is as before. -/
  outside : ∀ p, (∀ names, names ≠ [] → p ≠ place.below names) → tree.node? p = before.node? p
  /-- The working directory is as before. -/
  here : tree.here = before.here

/-- Where nothing stands, nothing has been laid. -/
theorem filled_of_nothing {tree : FileTree} {place : Place}
    (h : ∀ names, names ≠ [] → tree.node? (place.below names) = none) :
    Filled tree place [] tree where
  file names bytes hne := by simp [h names hne]
  directory names hne := by simp [h names hne]
  outside _ _ := rfl
  here := rfl

theorem EmptyAt.filled {tree : FileTree} {place : Place} (h : tree.EmptyAt place) :
    Filled tree place [] tree :=
  filled_of_nothing h.nothing

/-- What stands below a place once a file has been laid there. -/
theorem Passable.node?_put_pave {tree : FileTree} {place : Place} {first : List String}
    (h : tree.Passable place first) (last : String) (bytes : List UInt8) {names : List String}
    (hne : names ≠ []) :
    ((tree.pave place first).put (place.below (first ++ [last])) (.file bytes)).node?
        (place.below names) =
      if names = first ++ [last] then some (.file bytes)
      else if names <+: first then some .directory
      else tree.node? (place.below names) := by
  split
  · rename_i heq
    rw [← heq]
    exact node?_put_self _ _ (Place.below_ne_root place hne)
  · rename_i hnot
    rw [node?_put_of_ne _ _ fun heq => hnot (Place.below_inj.1 heq), h.node?_pave]
    simp only [Place.below_mem_steps hne]

namespace Filled

variable {before tree : FileTree} {place : Place} {files others : List (List String × List UInt8)}

/-- The order of the files does not matter. -/
theorem congr (h : Filled before place files tree) (hsame : ∀ file, file ∈ files ↔ file ∈ others) :
    Filled before place others tree where
  file names bytes hne := by rw [h.file names bytes hne, hsame]
  directory names hne := by simp only [h.directory names hne, hsame]
  outside := h.outside
  here := h.here

/-- No directory is lost. -/
theorem keeps (h : Filled before place files tree) (hempty : before.EmptyAt place) {p : Place}
    (hp : before.node? p = some .directory) : tree.node? p = some .directory := by
  rw [h.outside p ?_, hp]
  rintro names hne rfl
  rw [hempty.nothing names hne] at hp
  cases hp

section Next

variable {first : List String} {last : String} (h : Filled before place files tree)
  (haside : ∀ file ∈ files, Aside file.1 (first ++ [last]))

include h haside

/-- No file is on the way to the next one. -/
theorem passable : tree.Passable place first := by
  rw [passable_iff]
  intro p hp bytes hfile
  obtain ⟨names, hne, hstarts, rfl⟩ := Place.mem_steps.1 hp
  have hmem := (h.file names bytes hne).1 hfile
  exact (haside _ hmem).1 (hstarts.trans (List.prefix_append first [last]))

/-- Nothing stands where the next file goes. -/
theorem free : tree.node? (place.below (first ++ [last])) = none := by
  have hne : first ++ [last] ≠ [] := by simp
  cases hnode : tree.node? (place.below (first ++ [last])) with
  | none => rfl
  | some node =>
    cases node with
    | file bytes =>
      exact absurd List.prefix_rfl (haside _ ((h.file _ bytes hne).1 hnode)).1
    | directory =>
      obtain ⟨file, hmem, hstarts, _⟩ := (h.directory _ hne).1 hnode
      exact absurd hstarts (haside file hmem).2

/-- The next file is laid beside the others. -/
theorem put (bytes : List UInt8) :
    Filled before place (files ++ [(first ++ [last], bytes)])
      ((tree.pave place first).put (place.below (first ++ [last])) (.file bytes)) where
  file names content hne := by
    rw [(h.passable haside).node?_put_pave last bytes hne, List.mem_append, List.mem_singleton,
      Prod.mk.injEq]
    by_cases hself : names = first ++ [last]
    · have hnot : (names, content) ∉ files := fun hmem =>
        (haside _ hmem).1 (hself ▸ List.prefix_rfl)
      simp [hself, hself ▸ hnot, eq_comm]
    · rw [if_neg hself]
      by_cases hstarts : names <+: first
      · have hnot : (names, content) ∉ files := fun hmem =>
          (haside _ hmem).1 (hstarts.trans (List.prefix_append first [last]))
        simp [hstarts, hnot, hself]
      · simp [hstarts, h.file names content hne, hself]
  directory names hne := by
    rw [(h.passable haside).node?_put_pave last bytes hne]
    by_cases hself : names = first ++ [last]
    · have hnot : ¬ ∃ file ∈ files, names <+: file.1 ∧ names ≠ file.1 := by
        rintro ⟨file, hmem, hstarts, _⟩
        exact (haside file hmem).2 (hself ▸ hstarts)
      simp only [List.mem_append, List.mem_singleton, or_and_right, exists_or, exists_eq_left]
      simp [hself, hself ▸ hnot]
    · rw [if_neg hself]
      by_cases hstarts : names <+: first
      · simp only [if_pos hstarts, true_iff]
        exact ⟨_, List.mem_append_right _ List.mem_cons_self,
          hstarts.trans (List.prefix_append first [last]), hself⟩
      · simp only [List.mem_append, List.mem_singleton, or_and_right, exists_or, exists_eq_left]
        rw [if_neg hstarts, h.directory names hne, List.prefix_concat_iff]
        simp [hself, hstarts]
  outside p hp := by
    rw [node?_put_of_ne _ _ (hp _ (by simp)), (h.passable haside).node?_pave, if_neg,
      h.outside p hp]
    intro hmem
    obtain ⟨names, hne, _, rfl⟩ := Place.mem_steps.1 hmem
    exact hp names hne rfl
  here := (here_pave tree place first).trans h.here

end Next

end Filled

end SampleForge.FileTree
