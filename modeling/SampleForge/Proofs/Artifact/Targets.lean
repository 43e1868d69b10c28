import SampleForge.Artifact.Write
import SampleForge.Proofs.Artifact.OutputPath
import SampleForge.Proofs.KeyMap
import SampleForge.Proofs.Outcome
import SampleForge.Proofs.Text.Order

/-!
# Which files can be written together

Files can stand beside one another if every path has a normal form, no two paths have the same, and
no normal form is a directory of another (`Writable`).  The checks before the first file is written
succeed exactly then (`targets_eq_ok`), and else refuse one of the reasons (`refused_of_targets`).

The third check looks at a single path for each: the first one that does not come before `path/`.
That is enough, since the paths are in ascending order and those below `path` stand together
(`below?_eq_find?`).
-/

namespace SampleForge.ArtifactMap

open OutputPath (Apart DirectoryOf Normalizes normalForm normalForm_eq normalize)
open Outcome
open Text (hasStart)

/-! ## Files and directories -/

/-- The first path that can lie below another does, if any path of the list does. -/
theorem below?_eq_find? (path : String) {paths : List String} (h : paths.Pairwise (· < ·)) :
    below? path paths = paths.find? (hasStart (path ++ "/")) := by
  induction paths with
  | nil => rfl
  | cons first rest ih =>
    obtain ⟨hfirst, hrest⟩ := List.pairwise_cons.1 h
    have ih := ih hrest
    rw [below?] at ih ⊢
    by_cases hle : path ++ "/" ≤ first
    · rw [List.find?_cons_of_pos (by simpa using hle)]
      cases hstart : hasStart (path ++ "/") first with
      | true => simp [hstart]
      | false =>
        -- Whatever follows `first` and lies below the path would have `first` below it as well.
        have hnone : rest.find? (hasStart (path ++ "/")) = none := by
          rw [List.find?_eq_none]
          intro other hother hbelow
          have hbetween := Text.hasStart_of_between hle
            (String.not_lt.1 (String.lt_asymm (hfirst other hother))) hbelow
          rw [hstart] at hbetween
          cases hbetween
        simp [hstart, hnone]
    · have hstart : hasStart (path ++ "/") first = false := by
        rw [← Bool.not_eq_true]
        exact fun htrue => hle (Text.le_of_hasStart htrue)
      rw [List.find?_cons_of_neg (by simpa using hle), ih,
        List.find?_cons_of_neg (by simp [hstart])]

example : below? "a" ["a", "a-b", "a.b", "a/c/d", "a/e", "a0"] = some "a/c/d" := by decide +kernel

theorem hasStart_slash {path other : String} :
    hasStart (path ++ "/") other = true ↔ DirectoryOf path other := by
  have hslash : path ++ "/" = path ++ String.singleton '/' := rfl
  rw [hslash, Text.hasStart_iff_split]
  rfl

section Nesting

variable {paths : List String} (h : paths.Pairwise (· < ·))

include h

theorem below?_eq_some {path other : String} (hbelow : below? path paths = some other) :
    other ∈ paths ∧ DirectoryOf path other := by
  rw [below?_eq_find? path h] at hbelow
  exact ⟨List.mem_of_find?_eq_some hbelow, hasStart_slash.1 (List.find?_some hbelow)⟩

theorem below?_eq_none {path : String} :
    below? path paths = none ↔ ∀ other ∈ paths, ¬ DirectoryOf path other := by
  rw [below?_eq_find? path h, List.find?_eq_none]
  simp only [hasStart_slash]

/-- No path is refused exactly if none is a directory of another. -/
theorem checkNesting_eq_ok {rest : List String} :
    checkNesting paths rest = .ok () ↔
      ∀ path ∈ rest, ∀ other ∈ paths, ¬ DirectoryOf path other := by
  induction rest with
  | nil => simp [checkNesting]
  | cons path rest ih =>
    rw [checkNesting, List.forall_mem_cons, ← below?_eq_none h, ← ih]
    cases below? path paths with
    | some nested => simp
    | none => simp

theorem checkNesting_eq_error {rest : List String} {e : GenerationError}
    (hcheck : checkNesting paths rest = .error e) :
    ∃ path ∈ rest, ∃ other ∈ paths, DirectoryOf path other ∧ e = .fileConflict path path other := by
  induction rest with
  | nil => cases hcheck
  | cons path rest ih =>
    rw [checkNesting] at hcheck
    split at hcheck
    · rename_i other hbelow
      cases hcheck
      obtain ⟨hmem, hdirectory⟩ := below?_eq_some h hbelow
      exact ⟨path, List.mem_cons_self, other, hmem, hdirectory, rfl⟩
    · obtain ⟨path', hpath', hother⟩ := ih hcheck
      exact ⟨path', List.mem_cons_of_mem _ hpath', hother⟩

end Nesting

/-! ## Normal forms -/

/-- A file to write under its normal path. -/
def settle (file : String × Content) : String × Target := (normalForm file.1, ⟨file.1, file.2⟩)

theorem keys_settle (files : List (String × Content)) :
    (files.map settle).map (·.1) = (files.map (·.1)).map normalForm := by
  rw [List.map_map, List.map_map]
  rfl

/-- Files are settled exactly if their normal paths are fresh. -/
theorem settleTargets_eq_ok {settled targets : KeyMap Target} {files : List (String × Content)} :
    settleTargets settled files = .ok targets ↔
      (∀ path ∈ files.map (·.1), Normalizes path) ∧
        settled.Fresh ((files.map settle).map (·.1)) ∧
        targets = settled.insertAll (files.map settle) := by
  induction files generalizing settled with
  | nil => simp [settleTargets, KeyMap.fresh_nil, KeyMap.insertAll, eq_comm]
  | cons file rest ih =>
    obtain ⟨given, content⟩ := file
    simp only [settleTargets, List.map_cons, List.forall_mem_cons]
    cases hnormal : normalize given with
    | error e =>
      have hnot : ¬ Normalizes given := by simp [Normalizes, hnormal]
      simp [hnot]
    | ok path =>
      have hpath : Normalizes given := ⟨path, hnormal⟩
      have hsettle : settle (given, content) = (path, ⟨given, content⟩) := by
        rw [settle, normalForm_eq hnormal]
      rw [hsettle, KeyMap.fresh_cons (⟨given, content⟩ : Target), KeyMap.insertAll_cons]
      cases hget : settled.get? path with
      | some first => simp [hget]
      | none => simp [hget, hpath, ih]

/-- The first file that cannot be settled has no normal path, or that of a file before it. -/
theorem settleTargets_eq_error {settled : KeyMap Target} {files : List (String × Content)}
    {e : GenerationError} (h : settleTargets settled files = .error e) :
    ∃ before given content after, files = before ++ (given, content) :: after ∧
      (normalize given = .error e ∨
        ∃ normal first, normalize given = .ok normal ∧ e = .fileConflict normal first given ∧
          ((∃ target, settled.get? normal = some target ∧ target.given = first) ∨
            normalize first = .ok normal ∧ first ∈ before.map (·.1))) := by
  induction files generalizing settled with
  | nil => cases h
  | cons file rest ih =>
    obtain ⟨given, content⟩ := file
    rw [settleTargets] at h
    cases hnormal : normalize given with
    | error fault =>
      rw [hnormal] at h
      cases h
      exact ⟨[], given, content, rest, rfl, .inl hnormal⟩
    | ok path =>
      rw [hnormal, bind_ok] at h
      cases hget : settled.get? path with
      | some target =>
        rw [hget] at h
        cases h
        exact ⟨[], given, content, rest, rfl,
          .inr ⟨path, target.given, hnormal, rfl, .inl ⟨target, hget, rfl⟩⟩⟩
      | none =>
        rw [hget] at h
        obtain ⟨before, given', content', after, rfl, hfault⟩ := ih h
        refine ⟨(given, content) :: before, given', content', after, rfl, ?_⟩
        refine hfault.imp_right ?_
        rintro ⟨normal, first, hnormal', heq, hfirst⟩
        refine ⟨normal, first, hnormal', heq, ?_⟩
        rcases hfirst with ⟨target, htarget, hgiven⟩ | ⟨hfirst, hmem⟩
        · by_cases hsame : normal = path
          · subst hsame
            rw [KeyMap.get?_insert_self, Option.some.injEq] at htarget
            subst htarget hgiven
            exact .inr ⟨hnormal, List.mem_cons_self⟩
          · rw [KeyMap.get?_insert_of_ne _ _ hsame] at htarget
            exact .inl ⟨target, htarget, hgiven⟩
        · exact .inr ⟨hfirst, List.mem_cons_of_mem _ hmem⟩

/-! ## All checks -/

/-- Files that can stand beside one another. -/
structure Writable (files : ArtifactMap) : Prop where
  /-- Every path has a normal form. -/
  normalizes : ∀ path ∈ files.keys, Normalizes path
  /-- No two of them have the same. -/
  distinct : files.keys.Pairwise Apart
  /-- None is a directory of another. -/
  unnested : ∀ a ∈ files.keys, ∀ b ∈ files.keys, ∀ path other, normalize a = .ok path →
    normalize b = .ok other → ¬ DirectoryOf path other

/-- Files under paths in normal form need only stand beside one another. -/
theorem writable_of_normal {files : ArtifactMap}
    (hnormal : ∀ path ∈ files.keys, normalize path = .ok path)
    (hunnested : ∀ a ∈ files.keys, ∀ b ∈ files.keys, ¬ DirectoryOf a b) : files.Writable where
  normalizes path hpath := ⟨path, hnormal path hpath⟩
  distinct := by
    refine files.nodup_keys.imp_of_mem fun {a b} ha hb hne normal hpath hother => ?_
    rw [hnormal a ha] at hpath
    rw [hnormal b hb] at hother
    exact hne (Except.ok.inj (hpath.trans hother.symm))
  unnested a ha b hb path other hpath hother := by
    rw [hnormal a ha] at hpath
    rw [hnormal b hb] at hother
    cases hpath
    cases hother
    exact hunnested a ha b hb

/-- The errors with which files are refused. -/
inductive Refused (files : ArtifactMap) : GenerationError → Prop where
  /-- A path has no normal form. -/
  | unnamed {path : String} {fault : FileFault} : path ∈ files.keys →
      normalize path = .error (.file fault) → Refused files (.file fault)
  /-- Two paths have one normal form. -/
  | twice {first second normal : String} : first ∈ files.keys → second ∈ files.keys →
      first < second → normalize first = .ok normal → normalize second = .ok normal →
      Refused files (.fileConflict normal first second)
  /-- A file is a directory of another. -/
  | nested {first second path other : String} : first ∈ files.keys → second ∈ files.keys →
      normalize first = .ok path → normalize second = .ok other → DirectoryOf path other →
      Refused files (.fileConflict path path other)

/-- The files to write under their normal paths. -/
def settled (files : ArtifactMap) : KeyMap Target :=
  KeyMap.empty.insertAll (files.toList.map settle)

theorem settleTargets_toList {files : ArtifactMap} {targets : KeyMap Target} :
    settleTargets .empty files.toList = .ok targets ↔
      (∀ path ∈ files.keys, Normalizes path) ∧ files.keys.Pairwise Apart ∧
        targets = files.settled := by
  rw [settleTargets_eq_ok, KeyMap.fresh_empty, keys_settle]
  constructor
  · rintro ⟨hnormal, hnodup, heq⟩
    exact ⟨hnormal, (OutputPath.nodup_normalForm hnormal).1 hnodup, heq⟩
  · rintro ⟨hnormal, hapart, heq⟩
    exact ⟨hnormal, (OutputPath.nodup_normalForm hnormal).2 hapart, heq⟩

theorem fresh_settle {files : ArtifactMap} (hnormal : ∀ path ∈ files.keys, Normalizes path)
    (hapart : files.keys.Pairwise Apart) :
    (KeyMap.empty : KeyMap Target).Fresh ((files.toList.map settle).map (·.1)) := by
  rw [KeyMap.fresh_empty, keys_settle]
  exact (OutputPath.nodup_normalForm hnormal).2 hapart

theorem keys_settled_perm {files : ArtifactMap} (hnormal : ∀ path ∈ files.keys, Normalizes path)
    (hapart : files.keys.Pairwise Apart) :
    files.settled.keys.Perm (files.keys.map normalForm) := by
  have hkeys : files.keys.map normalForm = (files.toList.map settle).map (·.1) :=
    (keys_settle files.toList).symm
  rw [hkeys]
  exact KeyMap.keys_insertAll_empty_perm (KeyMap.fresh_empty.1 (fresh_settle hnormal hapart))

theorem mem_keys_settled {files : ArtifactMap} (hnormal : ∀ path ∈ files.keys, Normalizes path)
    (hapart : files.keys.Pairwise Apart) {path : String} :
    path ∈ files.settled.keys ↔ ∃ key ∈ files.keys, normalize key = .ok path := by
  rw [(keys_settled_perm hnormal hapart).mem_iff, List.mem_map]
  constructor
  · rintro ⟨key, hkey, rfl⟩
    exact ⟨key, hkey, (hnormal key hkey).eq_normalForm⟩
  · rintro ⟨key, hkey, hpath⟩
    exact ⟨key, hkey, normalForm_eq hpath⟩

/-- The checks succeed exactly for files that can stand beside one another. -/
theorem targets_eq_ok {files : ArtifactMap} {targets : KeyMap Target} :
    files.targets = .ok targets ↔ files.Writable ∧ targets = files.settled := by
  simp only [ArtifactMap.targets, bind_eq_ok, settleTargets_toList, pure_eq, Except.ok.injEq]
  constructor
  · rintro ⟨_, ⟨hnormal, hapart, rfl⟩, ⟨⟩, hnesting, rfl⟩
    refine ⟨⟨hnormal, hapart, ?_⟩, rfl⟩
    intro a ha b hb path other hpath hother
    exact (checkNesting_eq_ok files.settled.ascending_keys).1 hnesting path
      ((mem_keys_settled hnormal hapart).2 ⟨a, ha, hpath⟩) other
      ((mem_keys_settled hnormal hapart).2 ⟨b, hb, hother⟩)
  · rintro ⟨⟨hnormal, hapart, hunnested⟩, rfl⟩
    refine ⟨_, ⟨hnormal, hapart, rfl⟩, (), ?_, rfl⟩
    rw [checkNesting_eq_ok files.settled.ascending_keys]
    intro path hpath other hother
    obtain ⟨a, ha, hpath⟩ := (mem_keys_settled hnormal hapart).1 hpath
    obtain ⟨b, hb, hother⟩ := (mem_keys_settled hnormal hapart).1 hother
    exact hunnested a ha b hb path other hpath hother

/-- Files that are refused are refused for a reason. -/
theorem refused_of_targets {files : ArtifactMap} {e : GenerationError}
    (h : files.targets = .error e) : files.Refused e := by
  rw [ArtifactMap.targets] at h
  cases hsettle : settleTargets .empty files.toList with
  | error fault =>
    rw [hsettle] at h
    cases h
    obtain ⟨before, given, content, after, hfiles, hfault⟩ := settleTargets_eq_error hsettle
    have hkeys : files.keys = before.map (·.1) ++ given :: after.map (·.1) := by
      rw [KeyMap.keys, hfiles, List.map_append, List.map_cons]
    have hgiven : given ∈ files.keys := hkeys ▸ List.mem_append_right _ List.mem_cons_self
    rcases hfault with hfault | ⟨normal, first, hnormal, rfl, hfirst⟩
    · obtain ⟨fault, rfl⟩ := OutputPath.normalize_eq_error hfault
      exact .unnamed hgiven hfault
    · rcases hfirst with ⟨target, htarget, _⟩ | ⟨hfirst, hmem⟩
      · cases htarget
      · have hlt : first < given := by
          have hascending := files.ascending_keys
          rw [hkeys, List.pairwise_append] at hascending
          exact hascending.2.2 first hmem given List.mem_cons_self
        exact .twice (hkeys ▸ List.mem_append_left _ hmem) hgiven hlt hfirst hnormal
  | ok targets =>
    rw [hsettle, bind_ok] at h
    obtain ⟨hnormal, hapart, rfl⟩ := settleTargets_toList.1 hsettle
    cases hnesting : checkNesting files.settled.keys files.settled.keys with
    | ok u =>
      rw [hnesting] at h
      cases h
    | error fault =>
      rw [hnesting] at h
      cases h
      obtain ⟨path, hpath, other, hother, hdirectory, rfl⟩ :=
        checkNesting_eq_error files.settled.ascending_keys hnesting
      obtain ⟨first, hfirst, hpath⟩ := (mem_keys_settled hnormal hapart).1 hpath
      obtain ⟨second, hsecond, hother⟩ := (mem_keys_settled hnormal hapart).1 hother
      exact .nested hfirst hsecond hpath hother hdirectory

end SampleForge.ArtifactMap
