import SampleForge.Artifact.OutputPath
import SampleForge.Proofs.Text.Pieces

/-!
# Normal forms of output paths

The pieces of a normal form are the real segments of the path (`split_of_normalize`), so a normal
form is its own (`normalize_idem`).

`normalForm` is the normal form as a function on all paths.
-/

namespace SampleForge.OutputPath

open Text (joinWith split)

/-- What a path needs to have a normal form, and what that is. -/
theorem normalize_eq_ok {path normal : String} :
    normalize path = .ok normal ↔
      escapes path = false ∧ Path.segments path ≠ [] ∧
        normal = joinWith "/" (Path.segments path) := by
  simp only [normalize]
  split
  · rename_i hescapes
    simp [hescapes]
  · rename_i hescapes
    split
    · rename_i hnil
      simp [hnil]
    · rename_i hsome
      simp only [Except.ok.injEq]
      constructor
      · rintro rfl
        exact ⟨Bool.not_eq_true _ ▸ hescapes, hsome, rfl⟩
      · rintro ⟨_, _, rfl⟩
        rfl

theorem mem_segments {path s : String} :
    s ∈ Path.segments path ↔ s ∈ split '/' path ∧ Path.isIdle s = false := by
  simp [Path.segments]

/-- The pieces of a normal form are the real segments of the path. -/
theorem split_of_normalize {path normal : String} (h : normalize path = .ok normal) :
    split '/' normal = Path.segments path := by
  obtain ⟨_, hne, rfl⟩ := normalize_eq_ok.1 h
  exact Text.split_joinWith hne fun s hs => Text.not_mem_of_mem_split (mem_segments.1 hs).1

theorem segments_of_normalize {path normal : String} (h : normalize path = .ok normal) :
    Path.segments normal = Path.segments path := by
  rw [Path.segments, split_of_normalize h, List.filter_eq_self]
  intro s hs
  simp [(mem_segments.1 hs).2]

/-- An absolute path has an empty piece. -/
theorem empty_mem_split_of_isAbsolute {path : String} (h : Path.isAbsolute path = true) :
    "" ∈ split '/' path := by
  have hprefix : ['/'] <+: path.toList := List.isPrefixOf_iff_prefix.1 h
  obtain ⟨rest, hrest⟩ := hprefix
  rw [split, ← hrest]
  exact List.mem_cons_self

theorem escapes_of_normalize {path normal : String} (h : normalize path = .ok normal) :
    escapes normal = false := by
  have hescapes := (normalize_eq_ok.1 h).1
  rw [escapes, Bool.or_eq_false_iff] at hescapes ⊢
  constructor
  · apply Bool.eq_false_iff.2
    intro habsolute
    have hmem := empty_mem_split_of_isAbsolute habsolute
    rw [split_of_normalize h] at hmem
    exact absurd (mem_segments.1 hmem).2 (by decide)
  · rw [split_of_normalize h]
    apply Bool.eq_false_iff.2
    intro hcontains
    have hmem := (mem_segments.1 (List.contains_iff_mem.1 hcontains)).1
    rw [List.contains_iff_mem.2 hmem] at hescapes
    exact absurd hescapes.2 (by decide)

/-- A normal form is its own normal form. -/
theorem normalize_idem {path normal : String} (h : normalize path = .ok normal) :
    normalize normal = .ok normal := by
  obtain ⟨_, hne, hnormal⟩ := normalize_eq_ok.1 h
  rw [normalize_eq_ok, segments_of_normalize h]
  exact ⟨escapes_of_normalize h, hne, hnormal⟩

/-- The pieces of a normal form are real segments, and none of them leads upwards. -/
theorem piece_of_normalize {path normal s : String} (h : normalize path = .ok normal)
    (hs : s ∈ split '/' normal) : Path.isIdle s = false ∧ s ≠ ".." := by
  constructor
  · rw [split_of_normalize h] at hs
    exact (mem_segments.1 hs).2
  · rintro rfl
    have hescapes := escapes_of_normalize h
    rw [escapes, Bool.or_eq_false_iff, List.contains_iff_mem.2 hs] at hescapes
    cases hescapes.2

theorem last_of_normalize {path normal : String} (h : normalize path = .ok normal) :
    ∃ first last, split '/' normal = first ++ [last] ∧ Path.isIdle last = false := by
  have hne := Text.split_ne_nil '/' normal
  exact ⟨_, _, (List.dropLast_concat_getLast hne).symm,
    (piece_of_normalize h (List.getLast_mem hne)).1⟩

theorem isAbsolute_of_normalize {path normal : String} (h : normalize path = .ok normal) :
    Path.isAbsolute normal = false := by
  have hescapes := escapes_of_normalize h
  rw [escapes, Bool.or_eq_false_iff] at hescapes
  exact hescapes.1

/-- A path without a normal form is refused as a file that cannot be written. -/
theorem normalize_eq_error {path : String} {e : GenerationError}
    (h : normalize path = .error e) : ∃ fault, e = .file fault := by
  rw [normalize] at h
  split at h
  · cases h
    exact ⟨_, rfl⟩
  · split at h
    · cases h
      exact ⟨_, rfl⟩
    · cases h

/-- Whether a path names a directory of another: the segments of the other start with its own, and
there are more. -/
def DirectoryOf (path other : String) : Prop :=
  ∃ rest, rest ≠ [] ∧ split '/' other = split '/' path ++ rest

theorem split_inj {a b : String} : split '/' a = split '/' b ↔ a = b := by
  constructor
  · intro h
    rw [← Text.joinWith_split '/' a, h, Text.joinWith_split]
  · rintro rfl
    rfl

theorem prefix_split_iff {path other : String} :
    split '/' path <+: split '/' other ↔ path = other ∨ DirectoryOf path other := by
  constructor
  · rintro ⟨rest, hrest⟩
    by_cases hnil : rest = []
    · rw [hnil, List.append_nil] at hrest
      exact .inl (split_inj.1 hrest)
    · exact .inr ⟨rest, hnil, hrest.symm⟩
  · rintro (rfl | ⟨rest, _, hrest⟩)
    · exact List.prefix_rfl
    · exact ⟨rest, hrest.symm⟩

/-! ## The normal form as a function -/

/-- Whether a path has a normal form. -/
def Normalizes (path : String) : Prop := ∃ normal, normalize path = .ok normal

/-- Whether two paths have no normal form in common. -/
def Apart (a b : String) : Prop := ∀ normal, normalize a = .ok normal → normalize b ≠ .ok normal

theorem Apart.symm {a b : String} (h : Apart a b) : Apart b a :=
  fun normal hb ha => h normal ha hb

/-- The normal form of a path, or the path itself if it has none. -/
def normalForm (path : String) : String :=
  match normalize path with
  | .ok normal => normal
  | .error _ => path

theorem normalForm_eq {path normal : String} (h : normalize path = .ok normal) :
    normalForm path = normal := by
  rw [normalForm, h]

theorem Normalizes.eq_normalForm {path : String} (h : Normalizes path) :
    normalize path = .ok (normalForm path) := by
  obtain ⟨normal, hnormal⟩ := h
  rw [normalForm_eq hnormal, hnormal]

theorem apart_iff {a b : String} (ha : Normalizes a) (hb : Normalizes b) :
    Apart a b ↔ normalForm a ≠ normalForm b := by
  constructor
  · intro hapart heq
    exact hapart _ ha.eq_normalForm (heq ▸ hb.eq_normalForm)
  · intro hne normal hnormal hnormal'
    exact hne ((normalForm_eq hnormal).trans (normalForm_eq hnormal').symm)

/-- A path with a normal form has it in common with itself. -/
theorem Apart.ne {a b : String} (h : Apart a b) (ha : Normalizes a) : a ≠ b := by
  rintro rfl
  exact h _ ha.eq_normalForm ha.eq_normalForm

/-- Paths are distinct in normal form if no two of them have one in common. -/
theorem nodup_normalForm {paths : List String} (h : ∀ path ∈ paths, Normalizes path) :
    (paths.map normalForm).Nodup ↔ paths.Pairwise Apart := by
  rw [List.Nodup, List.pairwise_map]
  apply List.Pairwise.iff_of_mem
  intro a b ha hb
  exact (apart_iff (h a ha) (h b hb)).symm

end SampleForge.OutputPath
