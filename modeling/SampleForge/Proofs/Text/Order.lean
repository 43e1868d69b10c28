import SampleForge.Proofs.Text.Pieces

/-!
# Texts with one start in the order of texts

Texts are ordered by their characters, so the texts with one start stand together: the start comes
first, and whatever lies between the start and a text that has it has it as well
(`hasStart_of_between`).
-/

namespace SampleForge.Text

theorem lt_iff_lex {s t : String} : s < t ↔ List.Lex (· < ·) s.toList t.toList := Iff.rfl

theorem not_lex_append (start rest : List Char) :
    ¬ List.Lex (· < ·) (start ++ rest) start := by
  induction start with
  | nil =>
    intro h
    cases h
  | cons c start ih =>
    intro h
    cases h with
    | rel hcc => exact Char.lt_irrefl c hcc
    | cons h => exact ih h

theorem prefix_of_between {start middle rest : List Char}
    (h : ¬ List.Lex (· < ·) middle start) (h' : ¬ List.Lex (· < ·) (start ++ rest) middle) :
    start <+: middle := by
  induction start generalizing middle with
  | nil => exact List.nil_prefix
  | cons c start ih =>
    cases middle with
    | nil => exact absurd .nil h
    | cons d middle =>
      have hcd : c = d :=
        Char.le_antisymm (Char.not_lt.1 fun hlt => h (.rel hlt))
          (Char.not_lt.1 fun hlt => h' (.rel hlt))
      subst hcd
      exact List.cons_prefix_cons.2
        ⟨rfl, ih (fun hlex => h (.cons hlex)) fun hlex => h' (.cons hlex)⟩

/-- A start comes before all texts that have it. -/
theorem le_of_hasStart {start s : String} (h : hasStart start s = true) : start ≤ s := by
  obtain ⟨rest, rfl⟩ := hasStart_iff.1 h
  rw [← String.not_lt, lt_iff_lex, String.toList_append]
  exact not_lex_append _ _

/-- A text between a start and a text that has it has it as well. -/
theorem hasStart_of_between {start s t : String} (h : start ≤ s) (h' : s ≤ t)
    (ht : hasStart start t = true) : hasStart start s = true := by
  obtain ⟨rest, rfl⟩ := hasStart_iff.1 ht
  rw [← String.not_lt, lt_iff_lex] at h h'
  rw [String.toList_append] at h'
  exact List.isPrefixOf_iff_prefix.2 (prefix_of_between h h')

end SampleForge.Text
