import Mathlib.Data.List.Dedup
import SampleForge.Artifact.Selection

/-!
# Kinds in the order of their first mention

A selection holds each kind that was named once, at the place of its first mention
(`firsts_eq_eraseDups`).  `named` is the selection of kinds and of allowed inputs.
-/

namespace SampleForge.Selection

theorem firsts_filter (p : ArtifactKind → Bool) (kinds : List ArtifactKind) :
    firsts (kinds.filter p) = (firsts kinds).filter p := by
  induction kinds with
  | nil => rfl
  | cons kind rest ih =>
    cases hp : p kind with
    | true =>
      rw [List.filter_cons_of_pos hp, firsts, ih, firsts, List.filter_cons_of_pos hp,
        List.filter_comm]
    | false =>
      rw [List.filter_cons_of_neg (by simp [hp]), ih, firsts,
        List.filter_cons_of_neg (by simp [hp]), List.filter_filter]
      apply List.filter_congr
      intro other _
      by_cases h : other = kind
      · subst h
        simp [hp]
      · simp [h]

/-- The first mentions are what is left once repeats are erased. -/
theorem firsts_eq_eraseDups (kinds : List ArtifactKind) : firsts kinds = kinds.eraseDups := by
  cases kinds with
  | nil => rfl
  | cons kind rest =>
    have hother : (fun other => decide (other ≠ kind)) = fun other => !other == kind := by
      funext other
      simp [beq_eq_decide]
    rw [firsts, ← firsts_filter, hother, firsts_eq_eraseDups, List.eraseDups_cons]
termination_by kinds.length
decreasing_by
  exact Nat.lt_succ_of_le (List.length_filter_le _ rest)

theorem nodup_firsts (kinds : List ArtifactKind) : (firsts kinds).Nodup := by
  induction kinds with
  | nil => exact List.nodup_nil
  | cons kind rest ih =>
    rw [firsts, List.nodup_cons]
    exact ⟨by simp, ih.filter _⟩

/-- The selection of kinds in the order given, and of inputs if only some are allowed. -/
def named (kinds : List ArtifactKind) (inputs : Option NameSet) : Selection :=
  { ofKinds kinds with inputs }

end SampleForge.Selection
