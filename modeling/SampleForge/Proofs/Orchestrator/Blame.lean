import SampleForge.Proofs.Orchestrator.DisjointMerge

/-!
# Who is to blame

A run meets its generators one after another.  Each of them brings one *occurrence* if it fails and
one for every file if it does not.  The run is a fold over this stream (`foldlM_step_merged`): it
takes the occurrences in until a *bad* one comes, a failure, a path without a normal form, or a path
that stands for a file met before.

At any time the merged files are those that have been met (`Owned`).  So the generator that a
conflict names first is the one that brought the path, and there is only one (`Owner`).  The error
of a run that fails is decided by the first bad occurrence and those before it, and by nothing that
comes later.
-/

namespace SampleForge.Orchestrator

open OutputPath (Normalizes normalize)
open Outcome

/-! ## What a run meets -/

/-- What a run meets: a generator that fails, or a file that a generator emits. -/
inductive Occurrence where
  | failure (generator : String) (cause : GenerationError)
  | file (generator path : String) (content : Content)

/-- Whether an occurrence is a file with the given normal path. -/
def Occurrence.LeadsTo (normal : String) : Occurrence → Prop
  | .failure _ _ => False
  | .file _ path _ => normalize path = .ok normal

/-- What a generator brings: its failure, or its files in the order of their paths. -/
def occurrences (product : Product) (r : Registration) : List Occurrence :=
  match r.generator.generate product with
  | .ok files => files.toList.map fun file => .file r.generator.name file.1 file.2
  | .error e => [.failure r.generator.name e]

/-- What a run meets, in the order of the run. -/
def stream (o : Orchestrator) (kinds : List ArtifactKind) (inputs : Option NameSet) :
    List Occurrence :=
  (o.admitted kinds inputs).flatMap (occurrences o.product)

/-- Whether an occurrence ends a run, given those before it. -/
inductive Bad (before : List Occurrence) : Occurrence → Prop where
  /-- A generator fails. -/
  | failure {generator : String} {cause : GenerationError} : Bad before (.failure generator cause)
  /-- A path has no normal form. -/
  | path {generator path : String} {content : Content} :
      ¬ Normalizes path → Bad before (.file generator path content)
  /-- A path stands for a file that was there before. -/
  | conflict {generator path normal : String} {content : Content} {other : Occurrence} :
      normalize path = .ok normal → other ∈ before → other.LeadsTo normal →
      Bad before (.file generator path content)

/-- Whether none of several occurrences ends a run. -/
def Sound (occurrences : List Occurrence) : Prop :=
  ∀ before next after, occurrences = before ++ next :: after → ¬ Bad before next

/-- A generator brings the only file with a normal path among several occurrences. -/
def Owner (before : List Occurrence) (normal generator : String) : Prop :=
  ∃ earlier path content later, before = earlier ++ .file generator path content :: later ∧
    normalize path = .ok normal ∧ ∀ other ∈ earlier ++ later, ¬ other.LeadsTo normal

/-- The error with which an occurrence ends a run, given those before it. -/
inductive Blames (before : List Occurrence) : Occurrence → GenerationError → Prop where
  /-- The failure of a generator, under its name. -/
  | failure {generator : String} {cause : GenerationError} :
      Blames before (.failure generator cause) (.generatorFailed generator cause)
  /-- The reason why a path has no normal form. -/
  | path {generator path : String} {content : Content} {e : GenerationError} :
      normalize path = .error e → Blames before (.file generator path content) e
  /-- A conflict between the generator that brought the path before and the one that does now. -/
  | conflict {first second path normal : String} {content : Content} :
      normalize path = .ok normal → Owner before normal first →
      Blames before (.file second path content) (.fileConflict normal first second)

/-! ## A run is a fold -/

/-- Takes in one occurrence. -/
def meet (merged : Merged) : Occurrence → Except GenerationError Merged
  | .failure generator cause => .error (.generatorFailed generator cause)
  | .file generator path content => do
      let normal ← normalize path
      match merged.get? normal with
      | some (first, _) => .error (.fileConflict normal first generator)
      | none => .ok (merged.insert normal (generator, content))

theorem mergeFiles_merged (generator : String) (merged : Merged) (paths : List String)
    (files : List (String × Content)) :
    (mergeFiles generator merged paths files).map (·.1) =
      (files.map fun file => Occurrence.file generator file.1 file.2).foldlM meet merged := by
  induction files generalizing merged paths with
  | nil => rfl
  | cons file rest ih =>
    obtain ⟨given, content⟩ := file
    rw [mergeFiles, List.map_cons, List.foldlM_cons, meet]
    cases normalize given with
    | error e => rfl
    | ok path =>
      simp only [bind_ok]
      cases merged.get? path with
      | some first => rfl
      | none => exact ih _ _

section Fold

variable (product : Product) (selection : Selection)

theorem step_merged (progress : Progress) (r : Registration) :
    (step product selection progress r).map (·.merged) =
      ((asked selection [r]).flatMap (occurrences product)).foldlM meet progress.merged := by
  by_cases hadmits : selection.admits r.generator.inputs = true
  · have hasked : asked selection [r] = [r] := by simp [asked, hadmits]
    rw [hasked, List.flatMap_singleton, step, if_pos hadmits, ask, occurrences]
    cases r.generator.generate product with
    | error e => rfl
    | ok files =>
      have hfiles := mergeFiles_merged r.generator.name progress.merged [] files.toList
      simp only [bind_ok]
      rw [← hfiles]
      cases mergeFiles r.generator.name progress.merged [] files.toList with
      | error e => rfl
      | ok result => rfl
  · have hasked : asked selection [r] = [] := by simp [asked, hadmits]
    rw [hasked, step, if_neg hadmits]
    rfl

/-- The merged files of a run come from a fold over what it meets. -/
theorem foldlM_step_merged (progress : Progress) (rs : List Registration) :
    (rs.foldlM (step product selection) progress).map (·.merged) =
      ((asked selection rs).flatMap (occurrences product)).foldlM meet progress.merged := by
  induction rs generalizing progress with
  | nil => rfl
  | cons r rs ih =>
    have hasked : asked selection (r :: rs) = asked selection [r] ++ asked selection rs :=
      asked_append [r] rs
    rw [hasked, List.flatMap_append, List.foldlM_append,
      ← step_merged product selection progress r, List.foldlM_cons]
    cases step product selection progress r with
    | error e => rfl
    | ok next => exact ih next

end Fold

/-! ## Owners -/

/-- There is one owner at most. -/
theorem Owner.unique {before : List Occurrence} {normal first second : String}
    (h : Owner before normal first) (h' : Owner before normal second) : first = second := by
  obtain ⟨earlier, path, content, later, rfl, hnormal, _⟩ := h
  obtain ⟨earlier', path', content', later', hbefore, _, hothers⟩ := h'
  have hmem : Occurrence.file first path content ∈
      earlier' ++ .file second path' content' :: later' :=
    hbefore ▸ List.mem_append_right _ List.mem_cons_self
  rcases List.mem_append.1 hmem with hmem | hmem
  · exact absurd hnormal (hothers _ (List.mem_append_left _ hmem))
  · rcases List.mem_cons.1 hmem with heq | hmem
    · cases heq
      rfl
    · exact absurd hnormal (hothers _ (List.mem_append_right _ hmem))

theorem Owner.append {before : List Occurrence} {normal generator : String}
    (h : Owner before normal generator) {next : Occurrence} (hnext : ¬ next.LeadsTo normal) :
    Owner (before ++ [next]) normal generator := by
  obtain ⟨earlier, path, content, later, rfl, hnormal, hothers⟩ := h
  refine ⟨earlier, path, content, later ++ [next], by simp, hnormal, ?_⟩
  rw [← List.append_assoc, List.forall_mem_append]
  exact ⟨hothers, by simpa using hnext⟩

/-- Merged files are those of several occurrences. -/
structure Owned (before : List Occurrence) (merged : Merged) : Prop where
  /-- A path is free if no occurrence leads to it. -/
  free : ∀ normal, merged.get? normal = none ↔ ∀ other ∈ before, ¬ other.LeadsTo normal
  /-- Any other path stands there with its owner. -/
  owner : ∀ normal generator content, merged.get? normal = some (generator, content) →
    Owner before normal generator

theorem owned_nil : Owned [] .empty where
  free normal := by simp
  owner normal generator content h := by cases h

namespace Owned

variable {before : List Occurrence} {merged next : Merged} {occurrence : Occurrence}

/-- One occurrence that is taken in keeps the owners. -/
theorem meet (h : Owned before merged) (hmeet : meet merged occurrence = .ok next) :
    Owned (before ++ [occurrence]) next := by
  cases occurrence with
  | failure generator cause => cases hmeet
  | file generator path content =>
    obtain ⟨normal, hnormal, hmeet⟩ := bind_eq_ok.1 hmeet
    cases hget : merged.get? normal with
    | some first =>
      rw [hget] at hmeet
      cases hmeet
    | none =>
      rw [hget] at hmeet
      cases hmeet
      have hleads : ∀ other, (Occurrence.file generator path content).LeadsTo other ↔
          other = normal := by
        intro other
        rw [Occurrence.LeadsTo, hnormal, Except.ok.injEq, eq_comm]
      constructor
      · intro other
        rw [KeyMap.get?_insert_eq_none, h.free, List.forall_mem_append, and_comm]
        simp [hleads]
      · intro other owner held hother
        by_cases heq : other = normal
        · subst heq
          rw [KeyMap.get?_insert_self] at hother
          cases hother
          refine ⟨before, path, content, [], rfl, hnormal, ?_⟩
          rw [List.append_nil]
          exact (h.free other).1 hget
        · rw [KeyMap.get?_insert_of_ne merged _ heq] at hother
          exact (h.owner other owner held hother).append fun hnext => heq ((hleads other).1 hnext)

theorem foldlM {after : List Occurrence} (h : Owned before merged)
    (hfold : after.foldlM Orchestrator.meet merged = .ok next) : Owned (before ++ after) next := by
  induction after generalizing before merged with
  | nil =>
    cases hfold
    rw [List.append_nil]
    exact h
  | cons occurrence after ih =>
    rw [List.foldlM_cons] at hfold
    obtain ⟨middle, hmeet, hrest⟩ := bind_eq_ok.1 hfold
    have hafter := ih (h.meet hmeet) hrest
    rw [List.append_assoc, List.singleton_append] at hafter
    exact hafter

/-- The error of an occurrence that is not taken in. -/
theorem meet_eq_error (h : Owned before merged) {e : GenerationError} :
    Orchestrator.meet merged occurrence = .error e ↔ Blames before occurrence e := by
  constructor
  · intro hmeet
    cases occurrence with
    | failure generator cause =>
      cases hmeet
      exact .failure
    | file generator path content =>
      rw [Orchestrator.meet] at hmeet
      cases hnormal : normalize path with
      | error fault =>
        rw [hnormal] at hmeet
        cases hmeet
        exact .path hnormal
      | ok normal =>
        rw [hnormal, bind_ok] at hmeet
        cases hget : merged.get? normal with
        | none =>
          rw [hget] at hmeet
          cases hmeet
        | some held =>
          obtain ⟨first, content'⟩ := held
          rw [hget] at hmeet
          cases hmeet
          exact .conflict hnormal (h.owner normal first content' hget)
  · intro hblames
    cases hblames with
    | failure => rfl
    | path hnormal => rw [Orchestrator.meet, hnormal, bind_error]
    | @conflict first second path normal content hnormal howner =>
      rw [Orchestrator.meet, hnormal, bind_ok]
      cases hget : merged.get? normal with
      | none =>
        obtain ⟨earlier, given, held, later, rfl, hgiven, _⟩ := howner
        exact absurd hgiven ((h.free normal).1 hget _ (List.mem_append_right _ List.mem_cons_self))
      | some held =>
        obtain ⟨generator, content'⟩ := held
        rw [(h.owner normal generator content' hget).unique howner]

/-- An occurrence is not taken in exactly if it is bad. -/
theorem bad_iff (h : Owned before merged) :
    Bad before occurrence ↔ ∃ e, Orchestrator.meet merged occurrence = .error e := by
  constructor
  · intro hbad
    cases hbad with
    | failure => exact ⟨_, rfl⟩
    | @path generator path content hpath =>
      cases hnormal : normalize path with
      | error e => exact ⟨e, h.meet_eq_error.2 (.path hnormal)⟩
      | ok normal => exact absurd ⟨normal, hnormal⟩ hpath
    | @conflict generator path normal content other hnormal hmem hleads =>
      cases hget : merged.get? normal with
      | none => exact absurd hleads ((h.free normal).1 hget other hmem)
      | some held =>
        exact ⟨_, h.meet_eq_error.2 (.conflict hnormal (h.owner normal held.1 held.2 hget))⟩
  · rintro ⟨e, hmeet⟩
    cases h.meet_eq_error.1 hmeet with
    | failure => exact .failure
    | path hnormal =>
      refine .path ?_
      rintro ⟨normal, hok⟩
      rw [hnormal] at hok
      cases hok
    | conflict hnormal howner =>
      obtain ⟨earlier, given, held, later, rfl, hgiven, _⟩ := howner
      exact .conflict hnormal (List.mem_append_right _ List.mem_cons_self) hgiven

end Owned

/-! ## The first bad occurrence -/

/-- Occurrences are all taken in exactly if they are sound. -/
theorem sound_iff {before : List Occurrence} :
    Sound before ↔ ∃ merged, before.foldlM meet .empty = .ok merged := by
  constructor
  · intro hsound
    cases hfold : before.foldlM meet .empty with
    | ok merged => exact ⟨merged, rfl⟩
    | error e =>
      obtain ⟨first, next, rest, middle, rfl, hfirst, hnext⟩ := foldlM_eq_error.1 hfold
      have howned : Owned first middle := owned_nil.foldlM hfirst
      exact absurd (howned.bad_iff.2 ⟨e, hnext⟩) (hsound first next rest rfl)
  · rintro ⟨merged, hfold⟩ first next rest rfl hbad
    rw [List.foldlM_append] at hfold
    obtain ⟨middle, hfirst, hfold⟩ := bind_eq_ok.1 hfold
    rw [List.foldlM_cons] at hfold
    obtain ⟨_, hnext, _⟩ := bind_eq_ok.1 hfold
    have howned : Owned first middle := owned_nil.foldlM hfirst
    obtain ⟨e, herror⟩ := howned.bad_iff.1 hbad
    rw [hnext] at herror
    cases herror

/-- A fold ends at the first bad occurrence, with the error of that one. -/
theorem foldlM_meet_eq_error {occurrences : List Occurrence} {e : GenerationError} :
    occurrences.foldlM meet .empty = .error e ↔
      ∃ before next, before ++ [next] <+: occurrences ∧ Sound before ∧ Blames before next e := by
  rw [foldlM_eq_error]
  constructor
  · rintro ⟨before, next, after, middle, rfl, hbefore, hnext⟩
    have howned : Owned before middle := owned_nil.foldlM hbefore
    exact ⟨before, next, ⟨after, by simp⟩, sound_iff.2 ⟨middle, hbefore⟩,
      howned.meet_eq_error.1 hnext⟩
  · rintro ⟨before, next, ⟨after, rfl⟩, hsound, hblames⟩
    obtain ⟨middle, hbefore⟩ := sound_iff.1 hsound
    have howned : Owned before middle := owned_nil.foldlM hbefore
    exact ⟨before, next, after, middle, by simp, hbefore, howned.meet_eq_error.2 hblames⟩

section Final

variable {o : Orchestrator} {kinds : List ArtifactKind} {inputs : Option NameSet}
  {diagnostics : List Diagnostic}

theorem run_of_error (h : ∃ d ∈ diagnostics, d.severity = .error) (selection : Selection) :
    o.run selection diagnostics =
      .error (.unresolvedDiagnostics (Diagnostic.errorCount diagnostics) diagnostics) := by
  obtain ⟨d, hd, herror⟩ := h
  have hpos : 0 < Diagnostic.errorCount diagnostics :=
    List.countP_pos_iff.2 ⟨d, hd, by simp [Diagnostic.isError, herror]⟩
  rw [run, if_pos hpos]

theorem run_eq_error (h : ∀ d ∈ diagnostics, d.severity ≠ .error) {e : GenerationError} :
    o.run (.named kinds inputs) diagnostics = .error e ↔
      ∃ before next, before ++ [next] <+: o.stream kinds inputs ∧ Sound before ∧
        Blames before next e := by
  have hzero : ¬ 0 < Diagnostic.errorCount diagnostics := by
    rw [errorCount_eq_zero.2 h]
    exact Nat.lt_irrefl 0
  have hfold := foldlM_step_merged o.product (.named kinds inputs) {} (o.walk kinds)
  rw [run, if_neg hzero, selected_named, map_eq_error, ← map_eq_error (f := (·.merged)), hfold]
  exact foldlM_meet_eq_error

end Final

/-- A run for which the diagnostics hold errors fails with them, whatever is registered.  Any other
run fails exactly with the error of the first bad occurrence that it meets, and so does every run
that meets the same occurrences up to that one. -/
theorem run_blames (o : Orchestrator) (kinds : List ArtifactKind) (inputs : Option NameSet)
    (diagnostics : List Diagnostic) :
    ((∃ d ∈ diagnostics, d.severity = .error) →
        o.run (.named kinds inputs) diagnostics =
          .error (.unresolvedDiagnostics (diagnostics.countP (·.severity = .error))
            diagnostics)) ∧
      ((∀ d ∈ diagnostics, d.severity ≠ .error) →
        (∀ e, o.run (.named kinds inputs) diagnostics = .error e ↔
          ∃ before next, before ++ [next] <+: o.stream kinds inputs ∧ Sound before ∧
            Blames before next e) ∧
        ∀ e, o.run (.named kinds inputs) diagnostics = .error e →
          ∃ part, part <+: o.stream kinds inputs ∧
            ∀ o' kinds' inputs', part <+: stream o' kinds' inputs' →
              o'.run (.named kinds' inputs') diagnostics = .error e) := by
  refine ⟨fun herror => run_of_error herror _, fun hnone => ⟨fun e => run_eq_error hnone, ?_⟩⟩
  intro e hrun
  obtain ⟨before, next, hpart, hsound, hblames⟩ := (run_eq_error hnone).1 hrun
  refine ⟨before ++ [next], hpart, ?_⟩
  intro o' kinds' inputs' hpart'
  exact (run_eq_error hnone).2 ⟨before, next, hpart', hsound, hblames⟩

/-- The order in which kinds are named decides who was first. -/
example :
    let o : Orchestrator := {
      product := { packageName := "library.v1", language := .java, timestamp := ⟨0, 0⟩ }
      registrations := [
        ⟨.surface, .fixed "client" [] (.ofList [("a/b", .text "1")])⟩,
        ⟨.test, .fixed "mock" [] (.ofList [("a//b", .text "2")])⟩] }
    o.run (.named [.test, .surface] none) [] = .error (.fileConflict "a/b" "mock" "client") := by
  rfl

end SampleForge.Orchestrator
