import Mathlib.Data.List.Forall2
import SampleForge.Proofs.Artifact.Selection
import SampleForge.Proofs.Orchestrator.Merge

/-!
# The exact disjoint merge

A run succeeds exactly if nothing stands in its way (`Mergeable`), and then its report is the merge
of what the generators emit (`IsMerge`).  Every file is there under its normal path with its
content, no other file is, and every registration of a named kind is accounted for once, in order.
-/

namespace SampleForge.Orchestrator

open OutputPath (Apart Normalizes normalForm)

/-! ## The specification -/

section Specification

variable (o : Orchestrator) (kinds : List ArtifactKind) (inputs : Option NameSet)

/-- The registrations of the named kinds, kind by kind in the order of first mention.  Those of a
kind stand in the order of registration. -/
def walk : List Registration :=
  kinds.eraseDups.flatMap fun kind => o.registrations.filter (·.kind = kind)

/-- The registrations of the named kinds that take part. -/
def admitted : List Registration := asked (.named kinds inputs) (o.walk kinds)

/-- The registrations of the named kinds that declare no allowed input. -/
def leftOut : List Registration := passedOver (.named kinds inputs) (o.walk kinds)

/-- The files that the generators emit, each as often as it is emitted. -/
def emitted : List (String × Content) := (o.admitted kinds inputs).flatMap (emission o.product)

/-- Nothing stands in the way of a run. -/
@[mk_iff mergeable_iff]
structure Mergeable (diagnostics : List Diagnostic) : Prop where
  /-- No diagnostic is an error. -/
  noError : ∀ d ∈ diagnostics, d.severity ≠ .error
  /-- Every generator that takes part succeeds. -/
  succeeds : ∀ r ∈ o.admitted kinds inputs, ∃ files, r.generator.generate o.product = .ok files
  /-- Every path that is emitted has a normal form. -/
  normalizes : ∀ file ∈ o.emitted kinds inputs, Normalizes file.1
  /-- No two of them have the same. -/
  disjoint : (o.emitted kinds inputs).Pairwise fun a b => Apart a.1 b.1

/-- A contribution names its generator and leads, file by file, to what the generator emitted. -/
structure Contributed (artifacts : ArtifactMap) (r : Registration) (c : Contribution) : Prop where
  /-- It bears the name of the generator. -/
  generator : c.generator = r.generator.name
  /-- It bears the kind of the registration. -/
  kind : c.kind = r.kind
  /-- Its paths lead to the contents of the emitted files, in their order. -/
  paths : List.Forall₂
    (fun file path => OutputPath.normalize file.1 = .ok path ∧ artifacts.get? path = some file.2)
    (emission o.product r) c.paths

/-- A report is the merge of what the generators emit. -/
structure IsMerge (report : Report) : Prop where
  /-- The files are the emitted ones under their normal paths. -/
  artifacts : ∀ path content, report.artifacts.get? path = some content ↔
    ∃ file ∈ o.emitted kinds inputs, OutputPath.normalize file.1 = .ok path ∧ file.2 = content
  /-- There are as many as were emitted. -/
  size : report.artifacts.size = (o.emitted kinds inputs).length
  /-- Every path is its own normal form. -/
  normal : ∀ path ∈ report.artifacts.keys, OutputPath.normalize path = .ok path
  /-- No path is contributed twice. -/
  distinct : (report.contributions.flatMap (·.paths)).Nodup
  /-- The contributed paths are those of the files. -/
  covered : ∀ path, path ∈ report.contributions.flatMap (·.paths) ↔ path ∈ report.artifacts.keys
  /-- Every registration that takes part contributes once, in order. -/
  contributions :
    List.Forall₂ (o.Contributed report.artifacts) (o.admitted kinds inputs) report.contributions
  /-- The others are skipped, in order. -/
  skipped : report.skipped = (o.leftOut kinds inputs).map (·.generator.name)

end Specification

/-! ## The walk -/

section Walk

theorem flatMap_filter_kind_perm {kinds : List ArtifactKind} (hkinds : kinds.Nodup)
    (rs : List Registration) :
    (kinds.flatMap fun kind => rs.filter (·.kind = kind)).Perm
      (rs.filter fun r => r.kind ∈ kinds) := by
  induction kinds with
  | nil => simp
  | cons kind rest ih =>
    obtain ⟨hnot, hrest⟩ := List.nodup_cons.1 hkinds
    have hfirst : (rs.filter fun r => r.kind ∈ kind :: rest).filter (·.kind = kind) =
        rs.filter (·.kind = kind) := by
      rw [List.filter_filter]
      apply List.filter_congr
      intro r _
      by_cases h : r.kind = kind
      · simp [h]
      · simp [h]
    have hothers : (rs.filter fun r => r.kind ∈ kind :: rest).filter (!·.kind = kind) =
        rs.filter fun r => r.kind ∈ rest := by
      rw [List.filter_filter]
      apply List.filter_congr
      intro r _
      by_cases h : r.kind = kind
      · simp [h, hnot]
      · simp [h]
    have hsplit := List.filter_append_perm (·.kind = kind)
      (rs.filter fun r => r.kind ∈ kind :: rest)
    rw [hfirst, hothers] at hsplit
    rw [List.flatMap_cons]
    exact ((ih hrest).append_left _).trans hsplit

variable (o : Orchestrator) (kinds : List ArtifactKind) (inputs : Option NameSet)

theorem selected_named : o.selected (.named kinds inputs) = o.walk kinds := by
  rw [walk, ← Selection.firsts_eq_eraseDups]
  rfl

/-- The walk passes every registration of a named kind once. -/
theorem walk_perm : (o.walk kinds).Perm (o.registrations.filter fun r => r.kind ∈ kinds) := by
  have hnodup : kinds.eraseDups.Nodup :=
    Selection.firsts_eq_eraseDups kinds ▸ Selection.nodup_firsts kinds
  have hperm := flatMap_filter_kind_perm hnodup o.registrations
  simp only [List.mem_eraseDups] at hperm
  exact hperm

end Walk

/-! ## What a run needs -/

section Needs

variable {product : Product} {selection : Selection} {rs : List Registration}

/-- The keys of what generators place are the normal paths of what they emit. -/
theorem keys_placed (rs : List Registration) :
    (rs.flatMap (placed product)).map (·.1) =
      (rs.flatMap (emission product)).map fun file => normalForm file.1 := by
  rw [List.map_flatMap, List.map_flatMap]
  congr 1
  funext r
  rw [placed, List.map_map]
  rfl

/-- Paths with a normal form are distinct in it if no two of them have one in common. -/
theorem nodup_normalForm_iff {files : List (String × Content)}
    (h : ∀ file ∈ files, Normalizes file.1) :
    (files.map fun file => normalForm file.1).Nodup ↔ files.Pairwise fun a b => Apart a.1 b.1 := by
  have hpaths := OutputPath.nodup_normalForm (List.forall_mem_map.2 h)
  rw [List.map_map, List.pairwise_map] at hpaths
  exact hpaths

/-- Registrations can be taken from the start if their generators succeed and the paths of what
they emit have distinct normal forms. -/
theorem canTake_start_iff :
    ({} : Progress).CanTake product selection rs ↔
      (∀ r ∈ asked selection rs, ∃ files, r.generator.generate product = .ok files) ∧
        (∀ file ∈ (asked selection rs).flatMap (emission product), Normalizes file.1) ∧
        ((asked selection rs).flatMap (emission product)).Pairwise fun a b => Apart a.1 b.1 := by
  rw [Progress.canTake_iff, KeyMap.fresh_empty, keys_placed]
  constructor
  · rintro ⟨hready, hnodup⟩
    have hnormal : ∀ file ∈ (asked selection rs).flatMap (emission product), Normalizes file.1 := by
      intro file hfile
      obtain ⟨r, hr, hfile⟩ := List.mem_flatMap.1 hfile
      exact (hready r hr).normalizes file hfile
    exact ⟨fun r hr => (hready r hr).succeeds, hnormal, (nodup_normalForm_iff hnormal).1 hnodup⟩
  · rintro ⟨hsucceeds, hnormal, hdisjoint⟩
    refine ⟨fun r hr => ⟨hsucceeds r hr, fun file hfile => ?_⟩,
      (nodup_normalForm_iff hnormal).2 hdisjoint⟩
    exact hnormal file (List.mem_flatMap.2 ⟨r, hr, hfile⟩)

theorem errorCount_eq_zero {diagnostics : List Diagnostic} :
    Diagnostic.errorCount diagnostics = 0 ↔ ∀ d ∈ diagnostics, d.severity ≠ .error := by
  simp [Diagnostic.errorCount, List.countP_eq_zero, Diagnostic.isError]

end Needs

/-! ## The outcome of a run -/

section Final

variable {o : Orchestrator} {kinds : List ArtifactKind} {inputs : Option NameSet}
  {diagnostics : List Diagnostic} {report : Report}

/-- The progress of a run at its end. -/
def final (o : Orchestrator) (kinds : List ArtifactKind) (inputs : Option NameSet) : Progress :=
  ({} : Progress).after o.product (.named kinds inputs) (o.walk kinds)

theorem run_eq_ok : o.run (.named kinds inputs) diagnostics = .ok report ↔
    o.Mergeable kinds inputs diagnostics ∧ report = (o.final kinds inputs).report := by
  have hmergeable : o.Mergeable kinds inputs diagnostics ↔
      Diagnostic.errorCount diagnostics = 0 ∧
        ({} : Progress).CanTake o.product (.named kinds inputs) (o.walk kinds) := by
    rw [errorCount_eq_zero, canTake_start_iff]
    exact mergeable_iff ..
  rw [hmergeable, run, selected_named]
  split
  · rename_i herror
    simp [Nat.ne_of_gt herror]
  · rename_i herror
    simp only [Outcome.map_eq_ok, foldlM_step_eq_ok, Nat.eq_zero_of_not_pos herror, true_and]
    constructor
    · rintro ⟨_, ⟨hcan, rfl⟩, rfl⟩
      exact ⟨hcan, rfl⟩
    · rintro ⟨hcan, rfl⟩
      exact ⟨_, ⟨hcan, rfl⟩, rfl⟩

theorem exists_run_iff : (∃ report, o.run (.named kinds inputs) diagnostics = .ok report) ↔
    o.Mergeable kinds inputs diagnostics := by
  constructor
  · rintro ⟨report, hrun⟩
    exact (run_eq_ok.1 hrun).1
  · intro h
    exact ⟨_, run_eq_ok.2 ⟨h, rfl⟩⟩

theorem artifacts_final : (o.final kinds inputs).report.artifacts =
    (KeyMap.empty.insertAll
      ((o.admitted kinds inputs).flatMap (placed o.product))).mapValues (·.2) :=
  rfl

theorem nodup_placed (h : o.Mergeable kinds inputs diagnostics) :
    (((o.admitted kinds inputs).flatMap (placed o.product)).map (·.1)).Nodup := by
  rw [keys_placed]
  exact (nodup_normalForm_iff h.normalizes).2 h.disjoint

/-- The merged files are the emitted ones under their normal paths. -/
theorem get?_final (h : o.Mergeable kinds inputs diagnostics) {path : String} {content : Content} :
    (o.final kinds inputs).report.artifacts.get? path = some content ↔
      ∃ file ∈ o.emitted kinds inputs,
        OutputPath.normalize file.1 = .ok path ∧ file.2 = content := by
  rw [artifacts_final, KeyMap.get?_mapValues, Option.map_eq_some_iff]
  simp only [KeyMap.get?_insertAll (KeyMap.fresh_empty.2 (nodup_placed h)), KeyMap.get?_empty,
    List.mem_flatMap, placed, List.mem_map, place, reduceCtorEq, false_or]
  constructor
  · rintro ⟨⟨generator, _⟩, ⟨r, hr, file, hfile, heq⟩, rfl⟩
    cases heq
    have hemitted : file ∈ o.emitted kinds inputs := List.mem_flatMap.2 ⟨r, hr, hfile⟩
    exact ⟨file, hemitted, (h.normalizes file hemitted).eq_normalForm, rfl⟩
  · rintro ⟨file, hemitted, hnormal, rfl⟩
    obtain ⟨r, hr, hfile⟩ := List.mem_flatMap.1 hemitted
    exact ⟨(r.generator.name, file.2),
      ⟨r, hr, file, hfile, by rw [OutputPath.normalForm_eq hnormal]⟩, rfl⟩

theorem keys_final_perm (h : o.Mergeable kinds inputs diagnostics) :
    (o.final kinds inputs).report.artifacts.keys.Perm
      ((o.emitted kinds inputs).map fun file => normalForm file.1) := by
  rw [artifacts_final, KeyMap.keys_mapValues, emitted, ← keys_placed]
  exact KeyMap.keys_insertAll_empty_perm (nodup_placed h)

theorem paths_final :
    (o.final kinds inputs).report.contributions.flatMap (·.paths) =
      (o.emitted kinds inputs).map fun file => normalForm file.1 := by
  rw [emitted, List.map_flatMap]
  exact List.flatMap_map ..

/-- Each generator that takes part contributes what it emits. -/
theorem contributed_final (h : o.Mergeable kinds inputs diagnostics) {r : Registration}
    (hr : r ∈ o.admitted kinds inputs) :
    o.Contributed (o.final kinds inputs).report.artifacts r (contribution o.product r) where
  generator := rfl
  kind := rfl
  paths := by
    rw [contribution, List.forall₂_map_right_iff, List.forall₂_same]
    intro file hfile
    have hemitted : file ∈ o.emitted kinds inputs := List.mem_flatMap.2 ⟨r, hr, hfile⟩
    have hnormal := (h.normalizes file hemitted).eq_normalForm
    exact ⟨hnormal, (get?_final h).2 ⟨file, hemitted, hnormal, rfl⟩⟩

theorem isMerge_final (h : o.Mergeable kinds inputs diagnostics) :
    o.IsMerge kinds inputs (o.final kinds inputs).report where
  artifacts := fun _ _ => get?_final h
  size := by
    rw [KeyMap.size, ← List.length_map (·.1)]
    exact (keys_final_perm h).length_eq.trans (List.length_map ..)
  normal := by
    intro path hpath
    obtain ⟨content, hcontent⟩ := KeyMap.mem_keys.1 hpath
    obtain ⟨file, _, hnormal, _⟩ := (get?_final h).1 hcontent
    exact OutputPath.normalize_idem hnormal
  distinct := by
    rw [paths_final]
    exact (nodup_normalForm_iff h.normalizes).2 h.disjoint
  covered := by
    intro path
    rw [paths_final]
    exact (keys_final_perm h).mem_iff.symm
  contributions :=
    List.forall₂_map_right_iff.2 (List.forall₂_same.2 fun _ hr => contributed_final h hr)
  skipped := rfl

end Final

/-- A run succeeds exactly if nothing stands in its way, and its report is then the merge of what
the generators emit. -/
theorem run_merges (o : Orchestrator) (kinds : List ArtifactKind) (inputs : Option NameSet)
    (diagnostics : List Diagnostic) :
    ((∃ report, o.run (.named kinds inputs) diagnostics = .ok report) ↔
        o.Mergeable kinds inputs diagnostics) ∧
      (∀ report, o.run (.named kinds inputs) diagnostics = .ok report →
        o.IsMerge kinds inputs report) ∧
      (o.walk kinds).Perm (o.registrations.filter fun r => r.kind ∈ kinds) := by
  refine ⟨exists_run_iff, ?_, walk_perm o kinds⟩
  intro report hrun
  obtain ⟨h, rfl⟩ := run_eq_ok.1 hrun
  exact isMerge_final h

example :
    let o : Orchestrator := {
      product := { packageName := "library.v1", language := .java, timestamp := ⟨0, 0⟩ }
      registrations := [
        ⟨.surface, .fixed "client" [] (.ofList [("./a//b", .text "1"), ("c", .text "2")])⟩,
        ⟨.test, .fixed "mock" [] (.ofList [("a/d/.", .text "3")])⟩] }
    (o.run (.named [.test, .surface, .test] none) []).toOption.map (·.artifacts.keys) =
      some ["a/b", "a/d", "c"] := by
  decide +kernel

end SampleForge.Orchestrator
