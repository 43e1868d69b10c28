import SampleForge.Orchestrator
import SampleForge.Proofs.Artifact.OutputPath
import SampleForge.Proofs.KeyMap
import SampleForge.Proofs.Outcome

/-!
# The course of a run

What `mergeFiles`, `step` and a whole run do to the progress.  Each of them succeeds exactly if the
generators and their paths are in order (`Ready`) and the normal paths are fresh, and then it adds
what the generators emit (`mergeFiles_eq_ok`, `step_eq_ok`, `foldlM_step_eq_ok`).
-/

namespace SampleForge.Orchestrator

open OutputPath (Normalizes normalForm normalForm_eq)

/-! ## What a generator emits -/

section Emission

variable (product : Product) (r : Registration)

/-- The files that a generator emits.  One that fails emits none. -/
def emission : List (String × Content) :=
  match r.generator.generate product with
  | .ok files => files.toList
  | .error _ => []

/-- A file under its normal path, with the name of its generator. -/
def place (generator : String) (file : String × Content) : String × String × Content :=
  (normalForm file.1, generator, file.2)

/-- The files that a generator emits under their normal paths. -/
def placed : List (String × String × Content) :=
  (emission product r).map (place r.generator.name)

/-- What a generator contributes. -/
def contribution : Contribution :=
  ⟨r.generator.name, r.kind, (emission product r).map fun file => normalForm file.1⟩

/-- A generator that succeeds, and the paths of its files have a normal form. -/
structure Ready : Prop where
  /-- The generator succeeds. -/
  succeeds : ∃ files, r.generator.generate product = .ok files
  /-- Every path that it emits has a normal form. -/
  normalizes : ∀ file ∈ emission product r, Normalizes file.1

end Emission

/-! ## One generator -/

/-- Files are merged exactly if their normal paths are fresh. -/
theorem mergeFiles_eq_ok {generator : String} {merged : Merged} {paths : List String}
    {files : List (String × Content)} {result : Merged × List String} :
    mergeFiles generator merged paths files = .ok result ↔
      (∀ file ∈ files, Normalizes file.1) ∧
        merged.Fresh ((files.map (place generator)).map (·.1)) ∧
        result = (merged.insertAll (files.map (place generator)),
          paths ++ files.map fun file => normalForm file.1) := by
  induction files generalizing merged paths with
  | nil =>
    simp [mergeFiles, KeyMap.fresh_nil, KeyMap.insertAll, eq_comm]
  | cons file rest ih =>
    obtain ⟨given, content⟩ := file
    simp only [mergeFiles, List.map_cons, List.forall_mem_cons]
    cases hnormal : OutputPath.normalize given with
    | error e =>
      have hnot : ¬ Normalizes given := by simp [Normalizes, hnormal]
      simp [hnot]
    | ok path =>
      have hpath : Normalizes given := ⟨path, hnormal⟩
      have hplace : place generator (given, content) = (path, generator, content) := by
        rw [place, normalForm_eq hnormal]
      rw [hplace, KeyMap.fresh_cons (generator, content), KeyMap.insertAll_cons,
        normalForm_eq hnormal]
      cases hget : merged.get? path with
      | some first => simp [hget]
      | none => simp [hget, hpath, ih]

/-! ## Several generators -/

section Course

variable (product : Product) (selection : Selection)

/-- The registrations among several whose generators are asked. -/
def asked (rs : List Registration) : List Registration :=
  rs.filter fun r => selection.admits r.generator.inputs

/-- The registrations among several whose generators are skipped. -/
def passedOver (rs : List Registration) : List Registration :=
  rs.filter fun r => !selection.admits r.generator.inputs

namespace Progress

/-- The progress of a run that has gone on with several registrations. -/
def after (progress : Progress) (rs : List Registration) : Progress where
  merged := progress.merged.insertAll ((asked selection rs).flatMap (placed product))
  contributions := progress.contributions ++ (asked selection rs).map (contribution product)
  skipped := progress.skipped ++ (passedOver selection rs).map (·.generator.name)

/-- Whether a run can go on with several registrations. -/
@[mk_iff canTake_iff]
structure CanTake (progress : Progress) (rs : List Registration) : Prop where
  /-- The generators that are asked are ready. -/
  ready : ∀ r ∈ asked selection rs, Ready product r
  /-- What they place is new to the merged files. -/
  fresh : progress.merged.Fresh (((asked selection rs).flatMap (placed product)).map (·.1))

end Progress

variable {product : Product} {selection : Selection} {progress next : Progress}

theorem asked_append (first rest : List Registration) :
    asked selection (first ++ rest) = asked selection first ++ asked selection rest :=
  List.filter_append first rest

theorem passedOver_append (first rest : List Registration) :
    passedOver selection (first ++ rest) =
      passedOver selection first ++ passedOver selection rest :=
  List.filter_append first rest

theorem Progress.after_append (first rest : List Registration) :
    progress.after product selection (first ++ rest) =
      (progress.after product selection first).after product selection rest := by
  simp [after, asked_append, passedOver_append, KeyMap.insertAll_append]

theorem Progress.canTake_append {first rest : List Registration} :
    progress.CanTake product selection (first ++ rest) ↔
      progress.CanTake product selection first ∧
        (progress.after product selection first).CanTake product selection rest := by
  simp only [canTake_iff, asked_append, List.forall_mem_append, List.flatMap_append,
    List.map_append, KeyMap.fresh_append]
  constructor
  · rintro ⟨⟨hfirst, hrest⟩, hfresh, hfresh'⟩
    exact ⟨⟨hfirst, hfresh⟩, hrest, hfresh'⟩
  · rintro ⟨⟨hfirst, hfresh⟩, hrest, hfresh'⟩
    exact ⟨⟨hfirst, hrest⟩, hfresh, hfresh'⟩

/-- A step asks the generator, and succeeds if its files can be merged. -/
theorem step_of_admits {r : Registration} (hadmits : selection.admits r.generator.inputs = true) :
    step product selection progress r = .ok next ↔
      Ready product r ∧ progress.merged.Fresh ((placed product r).map (·.1)) ∧
        next = { progress with
          merged := progress.merged.insertAll (placed product r)
          contributions := progress.contributions ++ [contribution product r] } := by
  cases hgenerate : r.generator.generate product with
  | error e =>
    have hnot : ¬ Ready product r := by
      rintro ⟨⟨files, hfiles⟩, _⟩
      rw [hgenerate] at hfiles
      cases hfiles
    simp [step, hadmits, ask, hgenerate, hnot]
  | ok files =>
    have hemission : emission product r = files.toList := by
      rw [emission, hgenerate]
    have hready : Ready product r ↔ ∀ file ∈ files.toList, Normalizes file.1 :=
      ⟨fun h => hemission ▸ h.normalizes, fun h => ⟨⟨files, hgenerate⟩, hemission ▸ h⟩⟩
    simp only [step, hadmits, ask, hgenerate, if_true, Outcome.bind_ok, Outcome.bind_eq_ok,
      mergeFiles_eq_ok, hready, placed, contribution, hemission, Outcome.pure_eq]
    constructor
    · rintro ⟨_, ⟨hnormal, hfresh, rfl⟩, heq⟩
      cases heq
      exact ⟨hnormal, hfresh, rfl⟩
    · rintro ⟨hnormal, hfresh, rfl⟩
      exact ⟨_, ⟨hnormal, hfresh, rfl⟩, rfl⟩

/-- One step takes one registration. -/
theorem step_eq_ok {r : Registration} :
    step product selection progress r = .ok next ↔
      progress.CanTake product selection [r] ∧ next = progress.after product selection [r] := by
  by_cases hadmits : selection.admits r.generator.inputs = true
  · have hasked : asked selection [r] = [r] := by simp [asked, hadmits]
    have hpassed : passedOver selection [r] = [] := by simp [passedOver, hadmits]
    rw [step_of_admits hadmits, Progress.canTake_iff, Progress.after, hasked, hpassed, and_assoc]
    simp
  · have hasked : asked selection [r] = [] := by simp [asked, hadmits]
    have hpassed : passedOver selection [r] = [r] := by simp [passedOver, hadmits]
    rw [Progress.canTake_iff, Progress.after, hasked, hpassed]
    simp [step, hadmits, KeyMap.fresh_nil, KeyMap.insertAll, eq_comm]

/-- A run takes its registrations one after another. -/
theorem foldlM_step_eq_ok {rs : List Registration} :
    rs.foldlM (step product selection) progress = .ok next ↔
      progress.CanTake product selection rs ∧ next = progress.after product selection rs := by
  induction rs generalizing progress with
  | nil =>
    simp [Progress.canTake_iff, Progress.after, asked, passedOver, KeyMap.fresh_nil,
      KeyMap.insertAll, eq_comm]
  | cons r rs ih =>
    -- What is fresh at the start is fresh for the first step and, after it, for the others.
    rw [List.foldlM_cons, Outcome.bind_eq_ok, ← List.singleton_append, Progress.canTake_append,
      Progress.after_append]
    constructor
    · rintro ⟨middle, hstep, hrest⟩
      obtain ⟨hr, rfl⟩ := step_eq_ok.1 hstep
      obtain ⟨hrs, rfl⟩ := ih.1 hrest
      exact ⟨⟨hr, hrs⟩, rfl⟩
    · rintro ⟨⟨hr, hrs⟩, rfl⟩
      exact ⟨_, step_eq_ok.2 ⟨hr, rfl⟩, ih.2 ⟨hrs, rfl⟩⟩

end Course

end SampleForge.Orchestrator
