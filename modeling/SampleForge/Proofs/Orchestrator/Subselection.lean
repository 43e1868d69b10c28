import Mathlib.Data.List.Flatten
import SampleForge.Proofs.Orchestrator.DisjointMerge

/-!
# Runs of fewer generators

Which generators take part in a run is decided one by one, by the kinds and the inputs that are
selected (`admitted_perm`).  A selection that asks for less therefore runs some of the generators
that a larger one runs (`admitted_subperm`).  Nothing that stands in their way is missing in the
larger run, so if that one succeeds they do, with the same files.

The order in which kinds are named decides the order of the run and no more.
-/

namespace SampleForge.Orchestrator

open OutputPath (Apart)

/-- Whether allowed inputs are among others.  Where nothing is said, all are allowed. -/
def AllowsNoMore : Option NameSet → Option NameSet → Prop
  | _, none => True
  | none, some _ => False
  | some few, some many => ∀ name ∈ few, name ∈ many

theorem allowsNoMore_refl (inputs : Option NameSet) : AllowsNoMore inputs inputs := by
  cases inputs with
  | none => trivial
  | some names => exact fun _ h => h

/-- What is admitted with fewer inputs is admitted with more. -/
theorem admits_mono {kinds kinds' : List ArtifactKind} {inputs inputs' : Option NameSet}
    (h : AllowsNoMore inputs inputs') {declared : NameSet}
    (hadmits : (Selection.named kinds inputs).admits declared = true) :
    (Selection.named kinds' inputs').admits declared = true := by
  cases inputs' with
  | none => rfl
  | some many =>
    cases inputs with
    | none => cases h
    | some few =>
      simp only [Selection.admits, Selection.named, NameSet.meets, List.any_eq_true,
        decide_eq_true_eq] at hadmits ⊢
      obtain ⟨name, hname, hdeclared⟩ := hadmits
      exact ⟨name, h name hname, hdeclared⟩

section Participants

variable (o : Orchestrator)

/-- The registrations that take part, in the order of registration. -/
def participants (kinds : List ArtifactKind) (inputs : Option NameSet) : List Registration :=
  o.registrations.filter fun r =>
    (Selection.named kinds inputs).admits r.generator.inputs && decide (r.kind ∈ kinds)

/-- They are those of the run, in another order. -/
theorem admitted_perm (kinds : List ArtifactKind) (inputs : Option NameSet) :
    (o.admitted kinds inputs).Perm (o.participants kinds inputs) := by
  have hperm := (walk_perm o kinds).filter
    fun r => (Selection.named kinds inputs).admits r.generator.inputs
  rw [List.filter_filter] at hperm
  exact hperm

variable {kinds kinds' : List ArtifactKind} {inputs inputs' : Option NameSet}
  (hkinds : ∀ kind ∈ kinds, kind ∈ kinds') (hinputs : AllowsNoMore inputs inputs')

include hkinds hinputs

theorem participants_sublist :
    (o.participants kinds inputs).Sublist (o.participants kinds' inputs') := by
  apply List.monotone_filter_right
  intro r hr
  rw [Bool.and_eq_true, decide_eq_true_eq] at hr ⊢
  exact ⟨admits_mono hinputs hr.1, hkinds r.kind hr.2⟩

theorem mem_admitted_mono {r : Registration} (hr : r ∈ o.admitted kinds inputs) :
    r ∈ o.admitted kinds' inputs' := by
  rw [(o.admitted_perm kinds inputs).mem_iff] at hr
  rw [(o.admitted_perm kinds' inputs').mem_iff]
  exact (o.participants_sublist hkinds hinputs).subset hr

theorem mem_emitted_mono {file : String × Content} (hfile : file ∈ o.emitted kinds inputs) :
    file ∈ o.emitted kinds' inputs' := by
  obtain ⟨r, hr, hemission⟩ := List.mem_flatMap.1 hfile
  exact List.mem_flatMap.2 ⟨r, o.mem_admitted_mono hkinds hinputs hr, hemission⟩

/-- Fewer files are apart if more are, whatever their order. -/
theorem pairwise_emitted_mono
    (h : (o.emitted kinds' inputs').Pairwise fun a b => Apart a.1 b.1) :
    (o.emitted kinds inputs).Pairwise fun a b => Apart a.1 b.1 := by
  have hmore := h.perm ((o.admitted_perm kinds' inputs').flatMap_right _) Apart.symm
  have hfewer := hmore.sublist ((o.participants_sublist hkinds hinputs).flatMap _)
  exact hfewer.perm ((o.admitted_perm kinds inputs).flatMap_right _).symm Apart.symm

variable {o} {diagnostics : List Diagnostic}

theorem Mergeable.mono (h : o.Mergeable kinds' inputs' diagnostics) :
    o.Mergeable kinds inputs diagnostics where
  noError := h.noError
  succeeds r hr := h.succeeds r (o.mem_admitted_mono hkinds hinputs hr)
  normalizes file hfile := h.normalizes file (o.mem_emitted_mono hkinds hinputs hfile)
  disjoint := o.pairwise_emitted_mono hkinds hinputs h.disjoint

/-- If the run of a selection succeeds, then so does that of a smaller one, and its files are among
those of the larger. -/
theorem run_of_fewer {larger : Report}
    (h : o.run (.named kinds' inputs') diagnostics = .ok larger) :
    ∃ smaller, o.run (.named kinds inputs) diagnostics = .ok smaller ∧
      ∀ path content, smaller.artifacts.get? path = some content →
        larger.artifacts.get? path = some content := by
  obtain ⟨hlarger, rfl⟩ := run_eq_ok.1 h
  have hsmaller := hlarger.mono hkinds hinputs
  refine ⟨_, run_eq_ok.2 ⟨hsmaller, rfl⟩, ?_⟩
  intro path content hget
  obtain ⟨file, hfile, hpath, hcontent⟩ := (get?_final hsmaller).1 hget
  exact (get?_final hlarger).2
    ⟨file, o.mem_emitted_mono hkinds hinputs hfile, hpath, hcontent⟩

end Participants

/-- A selection of fewer kinds and inputs succeeds if a larger one does, with some of its files.
Two selections of the same kinds and inputs succeed together and with the same files, in whichever
order the kinds are named. -/
theorem run_mono (o : Orchestrator) (diagnostics : List Diagnostic) :
    (∀ kinds kinds' inputs inputs', (∀ kind ∈ kinds, kind ∈ kinds') →
      AllowsNoMore inputs inputs' →
      ∀ larger, o.run (.named kinds' inputs') diagnostics = .ok larger →
        ∃ smaller, o.run (.named kinds inputs) diagnostics = .ok smaller ∧
          ∀ path content, smaller.artifacts.get? path = some content →
            larger.artifacts.get? path = some content) ∧
      ∀ kinds kinds' inputs, (∀ kind, kind ∈ kinds ↔ kind ∈ kinds') →
        ((∃ report, o.run (.named kinds inputs) diagnostics = .ok report) ↔
          ∃ report, o.run (.named kinds' inputs) diagnostics = .ok report) ∧
        ∀ report report', o.run (.named kinds inputs) diagnostics = .ok report →
          o.run (.named kinds' inputs) diagnostics = .ok report' →
          report.artifacts = report'.artifacts ∧
            report.artifacts.fingerprint = report'.artifacts.fingerprint := by
  refine ⟨fun _ _ _ _ hkinds hinputs _ => run_of_fewer hkinds hinputs, ?_⟩
  intro kinds kinds' inputs hkinds
  have hforth : ∀ kind ∈ kinds, kind ∈ kinds' := fun kind => (hkinds kind).1
  have hback : ∀ kind ∈ kinds', kind ∈ kinds := fun kind => (hkinds kind).2
  have hinputs := allowsNoMore_refl inputs
  refine ⟨⟨?_, ?_⟩, ?_⟩
  · rintro ⟨report, hrun⟩
    obtain ⟨other, hother, _⟩ := run_of_fewer hback hinputs hrun
    exact ⟨other, hother⟩
  · rintro ⟨report, hrun⟩
    obtain ⟨other, hother, _⟩ := run_of_fewer hforth hinputs hrun
    exact ⟨other, hother⟩
  · intro report report' hrun hrun'
    obtain ⟨first, hfirst, hto⟩ := run_of_fewer hforth hinputs hrun'
    obtain ⟨second, hsecond, hfrom⟩ := run_of_fewer hback hinputs hrun
    rw [hrun] at hfirst
    rw [hrun'] at hsecond
    cases hfirst
    cases hsecond
    have hsame : report.artifacts = report'.artifacts :=
      KeyMap.ext_get? fun path content => ⟨hto path content, hfrom path content⟩
    exact ⟨hsame, congrArg ArtifactMap.fingerprint hsame⟩

end SampleForge.Orchestrator
