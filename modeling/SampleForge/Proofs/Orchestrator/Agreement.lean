import Mathlib.Data.List.Forall2
import SampleForge.Proofs.Orchestrator.Merge

/-!
# Runs that agree

Two orchestrators with the same generators, whose files have the same paths and related contents,
run alike.  Whatever is selected, they fail with the same error or give reports with the same paths
and related contents.  One step preserves the relation (`step_agree`), and so does a whole run
(`run_agree`).

A relation of contents may depend on the path.  It must then not change when the path is brought to
its normal form (`Stable`).
-/

namespace SampleForge.Orchestrator

open KeyMap (Matches)
open Outcome (Agree)

section Relations

variable (R : String → Content → Content → Prop)

/-- A relation of contents that a path and its normal form have in common. -/
def Stable : Prop :=
  ∀ given path content content', OutputPath.normalize given = .ok path →
    R given content content' → R path content content'

/-- Merged files with the same owners and related contents. -/
def MergedAlike (merged merged' : Merged) : Prop :=
  Matches (fun path a b => a.1 = b.1 ∧ R path a.2 b.2) merged merged'

/-- Runs that have come equally far, with related contents. -/
structure ProgressAlike (a b : Progress) : Prop where
  merged : MergedAlike R a.merged b.merged
  contributions : a.contributions = b.contributions
  skipped : a.skipped = b.skipped

/-- Reports with the same paths and related contents. -/
structure ReportAlike (a b : Report) : Prop where
  artifacts : Matches R a.artifacts b.artifacts
  contributions : a.contributions = b.contributions
  skipped : a.skipped = b.skipped

/-- Generators that differ in nothing but how the contents they make for two products are
related. -/
structure RegistrationAlike (product product' : Product) (a b : Registration) : Prop where
  kind : a.kind = b.kind
  name : a.generator.name = b.generator.name
  inputs : a.generator.inputs = b.generator.inputs
  generate : Agree (Matches R) (a.generator.generate product) (b.generator.generate product')

end Relations

section Run

variable {R : String → Content → Content → Prop} {product product' : Product}
  {selection : Selection}

theorem selected_alike {o o' : Orchestrator}
    (h : List.Forall₂ (RegistrationAlike R product product') o.registrations o'.registrations) :
    List.Forall₂ (RegistrationAlike R product product') (o.selected selection)
      (o'.selected selection) := by
  rw [selected, selected]
  induction selection.kinds with
  | nil => exact .nil
  | cons kind kinds ih =>
    rw [List.flatMap_cons, List.flatMap_cons]
    refine List.rel_append (List.rel_filter (fun a b hab => ?_) h) ih
    simp only [hab.kind]

variable (hstable : Stable R)

include hstable

theorem mergeFiles_agree {generator : String} {files files' : List (String × Content)}
    (hfiles : List.Forall₂ (Paired R) files files') {merged merged' : Merged}
    (hmerged : MergedAlike R merged merged') (paths : List String) :
    Agree (fun a b => MergedAlike R a.1 b.1 ∧ a.2 = b.2)
      (mergeFiles generator merged paths files) (mergeFiles generator merged' paths files') := by
  induction hfiles generalizing merged merged' paths with
  | nil => exact .ok ⟨hmerged, rfl⟩
  | @cons file file' _ _ hfile _ ih =>
    obtain ⟨given, content⟩ := file
    obtain ⟨given', content'⟩ := file'
    obtain ⟨rfl, hcontent⟩ := hfile
    simp only [mergeFiles]
    cases hnormal : OutputPath.normalize given with
    | error e => exact .error e
    | ok path =>
      rw [Outcome.bind_ok, Outcome.bind_ok]
      -- The owner of a path decides how a conflict is reported.
      have hfound := hmerged.get? path
      generalize merged.get? path = found, merged'.get? path = found' at hfound ⊢
      cases hfound with
      | none =>
        have hpath : R path content content' := hstable _ _ _ _ hnormal hcontent
        have hinsert : MergedAlike R (merged.insert path (generator, content))
            (merged'.insert path (generator, content')) :=
          Matches.insert hmerged ⟨rfl, hpath⟩
        exact ih hinsert _
      | @some first first' hfirst =>
        obtain ⟨owner, _⟩ := first
        obtain ⟨owner', _⟩ := first'
        obtain ⟨rfl, _⟩ := hfirst
        exact .error _

/-- A step takes related registrations to related progress. -/
theorem step_agree {a b : Progress} (hprogress : ProgressAlike R a b) {r r' : Registration}
    (h : RegistrationAlike R product product' r r') :
    Agree (ProgressAlike R) (step product selection a r) (step product' selection b r') := by
  rw [step, step, h.inputs]
  split
  · have hask : Agree (Matches R) (ask product r.generator) (ask product' r'.generator) := by
      have hgenerate := h.generate
      rw [ask, ask, h.name]
      generalize r.generator.generate product = made, r'.generator.generate product' = made'
        at hgenerate ⊢
      cases hgenerate with
      | error e => exact .error _
      | ok hfiles => exact .ok hfiles
    refine hask.bind fun files files' hfiles => ?_
    rw [h.name, h.kind, hprogress.contributions]
    refine (mergeFiles_agree hstable hfiles hprogress.merged []).bind fun x y hmerge => ?_
    exact .ok ⟨hmerge.1, by rw [hmerge.2], hprogress.skipped⟩
  · rw [h.name]
    exact .ok ⟨hprogress.merged, hprogress.contributions, by rw [hprogress.skipped]⟩

/-- A run takes related generators to related reports. -/
theorem run_agree {o o' : Orchestrator}
    (h : List.Forall₂ (RegistrationAlike R o.product o'.product) o.registrations o'.registrations)
    (diagnostics : List Diagnostic) :
    Agree (ReportAlike R) (o.run selection diagnostics) (o'.run selection diagnostics) := by
  rw [run, run]
  split
  · exact .error _
  · have hstart : ProgressAlike R {} {} := ⟨.empty, rfl, rfl⟩
    refine (Agree.foldlM (selected_alike h) (fun a b hprogress r r' hr =>
      step_agree hstable hprogress hr) hstart).map fun a b hprogress => ?_
    exact ⟨hprogress.merged.mapValues fun _ _ _ hpair => hpair.2, hprogress.contributions,
      hprogress.skipped⟩

end Run

end SampleForge.Orchestrator
