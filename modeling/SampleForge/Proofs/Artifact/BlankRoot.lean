import SampleForge.Proofs.Artifact.Write

/-!
# Output directories that are not there yet

The first file that is written below a directory makes the directory, if it is missing, along with
its own (`MissingRoot.writeOne_eq`).  So files are written below a missing directory as they are
below the same directory, made in advance and empty (`MissingRoot.writeTo_eq`).  Only a map without
files makes no difference there: nothing is written, and the directory stays missing.

`BlankRoot` takes both kinds of output directory together, and `writeTo_blank` says that writing is
all or nothing there.
-/

namespace SampleForge.ArtifactMap

open FileTree (EmptyAt Filled Plain)
open OutputPath (normalize)
open Outcome
open Text (split)

/-- A path that leads along names from a directory, where nothing stands at the first of them nor
below it. -/
structure MissingRoot (tree : FileTree) (root : String) (base : Place) (name : String)
    (names : List String) : Prop where
  leads : ∃ segments, Path.segments root = segments ++ name :: names ∧
    tree.walk (tree.start root) segments = .ok base
  directory : tree.node? base = some .directory
  plain : Plain (name :: names)
  nothing : ∀ rest, tree.node? (base.below (name :: rest)) = none

namespace MissingRoot

variable {tree : FileTree} {root : String} {base : Place} {name : String} {names : List String}
  (h : MissingRoot tree root base name names)

include h

theorem passable (rest : List String) : tree.Passable base (name :: names ++ rest) := by
  rw [FileTree.passable_iff]
  intro p hp bytes
  obtain ⟨first, hne, hstarts, rfl⟩ := Place.mem_steps.1 hp
  obtain ⟨head, tail, rfl⟩ := List.exists_cons_of_ne_nil hne
  rw [List.cons_append] at hstarts
  obtain ⟨rfl, _⟩ := List.cons_prefix_cons.1 hstarts
  rw [h.nothing]
  simp

theorem node?_made (p : Place) :
    (tree.pave base (name :: names)).node? p =
      if p ∈ base.steps (name :: names) then some .directory else tree.node? p := by
  have hpassable : tree.Passable base (name :: names) := by
    have hall := h.passable []
    rwa [List.append_nil] at hall
  exact hpassable.node?_pave p

/-- Once it is made, the directory is empty. -/
theorem emptyRoot :
    EmptyRoot (tree.pave base (name :: names)) root (base.below (name :: names)) where
  directory := by
    rw [h.node?_made, if_pos ((Place.below_mem_steps (List.cons_ne_nil _ _)).2 List.prefix_rfl)]
  nothing rest hne := by
    rw [← Place.below_append, List.cons_append, h.node?_made, if_neg, h.nothing]
    rw [Place.below_mem_steps (List.cons_ne_nil _ _)]
    intro hstarts
    have hlength := hstarts.length_le
    have hpositive := List.length_pos_iff.2 hne
    simp only [List.length_cons, List.length_append] at hlength
    omega
  leads := by
    obtain ⟨segments, hsegments, hwalk⟩ := h.leads
    have hbase : (tree.pave base (name :: names)).walk
        ((tree.pave base (name :: names)).start root) segments = .ok base := by
      rw [FileTree.start, FileTree.here_pave]
      exact FileTree.walk_mono (fun p hp => FileTree.directory_pave hp base _) hwalk
    rw [hsegments, FileTree.walk_append, hbase, bind_ok]
    refine FileTree.walk_below h.plain fun first hstarts _ => ?_
    by_cases hnil : first = []
    · subst hnil
      exact FileTree.directory_pave h.directory base _
    · rw [h.node?_made, if_pos ((Place.below_mem_steps hnil).2 hstarts)]

/-- The first file is written as if the directory were there. -/
theorem writeOne_eq {path : String} (hnormal : normalize path = .ok path)
    (haccepts : Accepts root path) (bytes : List UInt8) :
    writeOne tree (Path.join root path) bytes =
      writeOne (tree.pave base (name :: names)) (Path.join root path) bytes := by
  obtain ⟨first, last, hsplit, _⟩ := OutputPath.last_of_normalize hnormal
  obtain ⟨segments, hsegments, hwalk⟩ := h.leads
  have hroot := h.emptyRoot
  have hpassable :
      (tree.pave base (name :: names)).Passable (base.below (name :: names)) first := by
    rw [FileTree.passable_iff]
    intro p hp bytes
    obtain ⟨rest, hne, _, rfl⟩ := Place.mem_steps.1 hp
    rw [hroot.nothing rest hne]
    simp
  -- Going from `base`, the directories that are missing are made along with those of the path.
  have hmissing := makeDirectories_above hsegments hwalk h.directory h.plain hnormal haccepts hsplit
    (h.passable first)
  have hmade := makeDirectories_above (List.append_nil _).symm hroot.leads hroot.directory
    (List.forall_mem_nil _) hnormal haccepts hsplit hpassable
  rw [writeOne, writeOne, hmissing, hmade, FileTree.pave_append]
  rfl

/-- So are all files, if there are any. -/
theorem writeTo_eq {files : ArtifactMap} (hwritable : files.Writable)
    (haccepts : ∀ key ∈ files.keys, ∀ path, normalize key = .ok path → Accepts root path)
    (hfiles : files.toList ≠ []) :
    files.writeTo tree root = files.writeTo (tree.pave base (name :: names)) root := by
  rw [writeTo, writeTo, write, write, targets_eq_ok.2 ⟨hwritable, rfl⟩, bind_ok, bind_ok]
  cases hsettled : files.settled.toList with
  | nil =>
    have hsize := hwritable.size_settled
    rw [hsettled] at hsize
    exact absurd (List.length_eq_zero_iff.1 hsize.symm) hfiles
  | cons file rest =>
    have hfile : file ∈ files.settled.toList := hsettled ▸ List.mem_cons_self
    obtain ⟨key, hkey, hpath⟩ := hwritable.key_of_mem hfile
    have hone := h.writeOne_eq (OutputPath.normalize_idem hpath) (haccepts key hkey _ hpath)
      file.2.content.bytes
    have hnext : ({ tree } : Written).next root file =
        ({ tree := tree.pave base (name :: names) } : Written).next root file := by
      unfold Written.next
      rw [hone]
    simp only [writeTargets, hnext, pure_eq]

end MissingRoot

/-! ## Both kinds of output directory -/

/-- An output directory with nothing in it, which may be missing.  `made` is the tree in which it
has been made. -/
inductive BlankRoot (tree : FileTree) (root : String) : FileTree → Place → Prop where
  | empty {place : Place} (h : EmptyRoot tree root place) : BlankRoot tree root tree place
  | missing {base : Place} {name : String} {names : List String}
      (h : MissingRoot tree root base name names) :
      BlankRoot tree root (tree.pave base (name :: names)) (base.below (name :: names))

namespace BlankRoot

variable {tree made : FileTree} {root : String} {place : Place} {files : ArtifactMap}

theorem emptyRoot (h : BlankRoot tree root made place) : EmptyRoot made root place := by
  cases h with
  | empty h => exact h
  | missing h => exact h.emptyRoot

/-- Nothing stands below the directory. -/
theorem nothing (h : BlankRoot tree root made place) {names : List String} (hne : names ≠ []) :
    tree.node? (place.below names) = none := by
  cases h with
  | empty h => exact h.nothing names hne
  | missing h =>
    rw [← Place.below_append]
    exact h.nothing _

/-- A map without files leaves it as it is. -/
theorem isWriting_nil (h : BlankRoot tree root made place) (hfiles : files.toList = []) :
    files.IsWriting tree root place tree := by
  have hspots : files.spots = [] := by
    rw [spots, hfiles]
    rfl
  refine ⟨hspots ▸ FileTree.filled_of_nothing fun names hne => h.nothing hne, ?_, ?_⟩
  · rw [hspots]
    exact List.nodup_nil
  · intro key content path hget
    rw [KeyMap.get?_eq_some, hfiles] at hget
    cases hget

/-- Files are written as if it were there. -/
theorem writeTo_eq (h : BlankRoot tree root made place) (hwritable : files.Writable)
    (haccepts : ∀ key ∈ files.keys, ∀ path, normalize key = .ok path → Accepts root path)
    (hfiles : files.toList ≠ []) : files.writeTo tree root = files.writeTo made root := by
  cases h with
  | empty h => rfl
  | missing h => exact h.writeTo_eq hwritable haccepts hfiles

end BlankRoot

theorem writeTo_nil {files : ArtifactMap} (hwritable : files.Writable) (hfiles : files.toList = [])
    (tree : FileTree) (root : String) : files.writeTo tree root = (tree, .ok 0) := by
  have hsettled : files.settled.toList = [] := by
    rw [← List.length_eq_zero_iff, hwritable.size_settled, KeyMap.size, hfiles]
    rfl
  rw [writeTo, write, targets_eq_ok.2 ⟨hwritable, rfl⟩, bind_ok, hsettled]
  rfl

/-- Writing is all or nothing, whether the output directory is there or not. -/
theorem writeTo_blank {files : ArtifactMap} {tree made : FileTree} {root : String} {place : Place}
    (hroot : BlankRoot tree root made place)
    (haccepts : ∀ key ∈ files.keys, ∀ path, normalize key = .ok path → Accepts root path) :
    (∀ count, (files.writeTo tree root).2 = .ok count →
        ∃ before, (before = made ∨ files.toList = [] ∧ before = tree) ∧
          files.IsWriting before root place (files.writeTo tree root).1) ∧
      ∀ e, (files.writeTo tree root).2 = .error e → (files.writeTo tree root).1 = tree := by
  cases htargets : files.targets with
  | error fault =>
    rw [writeTo_of_targets htargets]
    exact ⟨by rintro _ ⟨⟩, fun _ _ => rfl⟩
  | ok targets =>
    obtain ⟨hwritable, rfl⟩ := targets_eq_ok.1 htargets
    by_cases hfiles : files.toList = []
    · rw [writeTo_nil hwritable hfiles]
      exact ⟨fun _ _ => ⟨tree, .inr ⟨hfiles, rfl⟩, hroot.isWriting_nil hfiles⟩, by rintro _ ⟨⟩⟩
    · obtain ⟨after, hwrite, hwriting⟩ := hwritable.writeTo_eq hroot.emptyRoot haccepts
      rw [hroot.writeTo_eq hwritable haccepts hfiles, hwrite]
      exact ⟨fun _ _ => ⟨made, .inl rfl, hwriting⟩, by rintro _ ⟨⟩⟩

end SampleForge.ArtifactMap
