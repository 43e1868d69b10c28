import SampleForge.Proofs.Artifact.OutputPath
import SampleForge.Proofs.Files.Path
import SampleForge.Proofs.Files.Tree

/-!
# Which paths have a normal form, and what it promises

A path has a normal form exactly if it does not start with a slash, no segment of it is `..`, and
some segment is neither empty nor `.` (`exists_normalize_iff`).  The normal form has the segments
that are left in their order, so two paths share it exactly if these segments are the same
(`eq_iff_realSegments_eq`).

A normal form never leads out of the directory from which it is seen.  Every place on its route lies
below that directory, and so does the place where it ends in a file tree (`Inside`).
-/

namespace SampleForge.OutputPath

open Outcome
open Text (joinWith split)

/-! ## Segments that count -/

/-- The segments of a path that are neither empty nor `.`, in their order. -/
def realSegments (path : String) : List String := (split '/' path).filter fun s => s ≠ "" ∧ s ≠ "."

theorem segments_eq_realSegments (path : String) : Path.segments path = realSegments path := by
  rw [Path.segments, realSegments]
  congr 1
  funext s
  simp [Path.isIdle]

theorem realSegments_eq_nil_iff {path : String} :
    realSegments path = [] ↔ ∀ s ∈ split '/' path, s = "" ∨ s = "." := by
  rw [realSegments, List.filter_eq_nil_iff]
  simp only [decide_eq_true_eq, not_and_or, not_not]

theorem isAbsolute_eq_true_iff {path : String} :
    Path.isAbsolute path = true ↔ path.toList.head? = some '/' := by
  rw [Path.isAbsolute, Text.hasStart]
  cases path.toList with
  | nil => simp
  | cons c cs =>
    simp only [String.reduceToList, List.isPrefixOf, Bool.and_true, beq_iff_eq, List.head?_cons,
      Option.some.injEq]
    exact eq_comm

/-- A path has a normal form unless it starts at the root, leads upwards, or names nothing. -/
theorem exists_normalize_iff {path : String} :
    (∃ normal, normalize path = .ok normal) ↔
      path.toList.head? ≠ some '/' ∧ ".." ∉ split '/' path ∧ realSegments path ≠ [] := by
  simp only [normalize_eq_ok, segments_eq_realSegments, escapes, Bool.or_eq_false_iff, ne_eq,
    ← isAbsolute_eq_true_iff, Bool.not_eq_true, List.contains_eq_mem, decide_eq_false_iff_not]
  constructor
  · rintro ⟨_, ⟨habsolute, hup⟩, hreal, _⟩
    exact ⟨habsolute, hup, hreal⟩
  · rintro ⟨habsolute, hup, hreal⟩
    exact ⟨_, ⟨habsolute, hup⟩, hreal, rfl⟩

/-! ## What a normal form promises -/

/-- A path that never leads out of the directory from which it is seen. -/
structure Inside (path : String) : Prop where
  /-- Every place on the route lies below the start, or is the start. -/
  route : ∀ start, ∀ p ∈ FileTree.route start (Path.segments path), ∃ names, p = start.below names
  /-- In a file tree, the path seen from a directory leads to a place further down, if it leads
  anywhere. -/
  locate : ∀ (tree : FileTree) (root : String) (target : Place),
    tree.locate (Path.join root path) = .ok target →
      ∃ directory names, tree.walk (tree.start root) (Path.segments root) = .ok directory ∧
        names ≠ [] ∧ target = directory.below names

/-- What the normal form of a path promises. -/
structure IsNormalForm (path normal : String) : Prop where
  /-- Its segments are those of the path that count, in their order. -/
  segments : split '/' normal = realSegments path
  /-- It is not empty. -/
  nonempty : normal ≠ ""
  /-- It does not start at the root. -/
  relative : normal.toList.head? ≠ some '/'
  /-- None of its segments stays where it is or leads upwards. -/
  plain : ∀ s ∈ split '/' normal, s ≠ "" ∧ s ≠ "." ∧ s ≠ ".."
  /-- It is its own normal form. -/
  stable : normalize normal = .ok normal
  /-- It never leads out of a directory. -/
  inside : Inside normal

variable {path normal : String} (h : normalize path = .ok normal)

include h

theorem ne_up_of_normalize : ∀ s ∈ Path.segments normal, s ≠ ".." := by
  intro s hs
  exact (piece_of_normalize h (mem_segments.1 hs).1).2

theorem segments_ne_nil_of_normalize : Path.segments normal ≠ [] := by
  rw [segments_of_normalize h]
  exact (normalize_eq_ok.1 h).2.1

theorem inside_of_normalize : Inside normal where
  route start p hp := by
    rw [FileTree.route_eq (ne_up_of_normalize h), List.mem_cons, Place.mem_steps] at hp
    rcases hp with rfl | ⟨first, _, _, rfl⟩
    · exact ⟨[], rfl⟩
    · exact ⟨first, rfl⟩
  locate tree root target hlocate := by
    have hrelative := isAbsolute_of_normalize h
    obtain ⟨_, hwalk⟩ := FileTree.walk_of_locate hlocate
    have hstart : tree.start (Path.join root normal) = tree.start root := by
      rw [FileTree.start, Path.isAbsolute_join root hrelative]
      rfl
    rw [hstart, Path.segments_join root hrelative, FileTree.walk_append] at hwalk
    obtain ⟨directory, hdirectory, hwalk⟩ := bind_eq_ok.1 hwalk
    exact ⟨directory, _, hdirectory, segments_ne_nil_of_normalize h,
      FileTree.below_of_walk (ne_up_of_normalize h) hwalk⟩

theorem isNormalForm_of_normalize : IsNormalForm path normal where
  segments := by rw [split_of_normalize h, segments_eq_realSegments]
  nonempty := by
    rintro rfl
    exact segments_ne_nil_of_normalize h rfl
  relative := by
    rw [ne_eq, ← isAbsolute_eq_true_iff, isAbsolute_of_normalize h]
    exact Bool.false_ne_true
  plain s hs := by
    obtain ⟨hidle, hup⟩ := piece_of_normalize h hs
    simp only [Path.isIdle, Bool.or_eq_false_iff, decide_eq_false_iff_not] at hidle
    exact ⟨hidle.1, hidle.2, hup⟩
  stable := normalize_idem h
  inside := inside_of_normalize h

/-- Two paths have one normal form exactly if they have the same segments that count. -/
theorem eq_iff_realSegments_eq {other otherNormal : String}
    (hother : normalize other = .ok otherNormal) :
    normal = otherNormal ↔ realSegments path = realSegments other := by
  rw [← segments_eq_realSegments, ← segments_eq_realSegments, ← split_of_normalize h,
    ← split_of_normalize hother, split_inj]

omit h

/-- A path fails to have a normal form exactly if it starts with a slash, has a segment `..`, or has
none that is neither empty nor `.`.  The normal form has the segments that count, stays inside every
directory, and is shared by just those paths that have the same segments. -/
theorem normalize_safe_and_canonical (path : String) :
    ((∃ e, normalize path = .error e) ↔
        path.toList.head? = some '/' ∨ ".." ∈ split '/' path ∨
          ∀ s ∈ split '/' path, s = "" ∨ s = ".") ∧
      ∀ normal, normalize path = .ok normal →
        IsNormalForm path normal ∧
          ∀ other otherNormal, normalize other = .ok otherNormal →
            (normal = otherNormal ↔ realSegments path = realSegments other) := by
  constructor
  · rw [exists_error_iff, exists_normalize_iff, ← realSegments_eq_nil_iff]
    simp only [not_and_or, not_not, ne_eq]
  · intro normal hnormal
    refine ⟨isNormalForm_of_normalize hnormal, ?_⟩
    intro other otherNormal hother
    exact eq_iff_realSegments_eq hnormal hother

end SampleForge.OutputPath
