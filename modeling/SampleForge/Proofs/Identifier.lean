import Mathlib.Data.List.Basic
import SampleForge.Identifier
import SampleForge.Proofs.Text.Case
import SampleForge.Proofs.Text.Pieces

/-!
# Words have no separators

A change of case makes no separator of a letter (`not_isSeparator_of_mem_lowerChar`).  The tables
are checked run by run: the images of a run are neighbours, and they all lie on one side of each
run of separators (`Apart`).

The characters of a word are small forms of characters of the identifier (`exists_of_mem_words`).
So the words of an identifier hold no separator, and neither of its spellings holds a point.  No
word is empty.  An identifier of small letters alone is one word, and is spelled as it is
(`lowerUnderscore_of_kept`).
-/

namespace SampleForge.Identifier

open Text (CaseExpansion CaseRun changeCase blankRuns capitalExpansions capitalRuns inRuns isBlank
  isCapital joinWith lowerChar smallExpansions smallRuns upperChar)

/-! ## Separators as runs -/

/-- The separators, as runs of code points. -/
def separatorRuns : List (Nat × Nat) := (0x2D, 0x2E) :: (0x5F, 0x5F) :: blankRuns

theorem isSeparator_eq (c : Char) : isSeparator c = inRuns separatorRuns c.toNat := by
  have hchar : ∀ d : Char, decide (c = d) = (c.toNat == d.toNat) := by
    intro d
    rw [Bool.eq_iff_iff, decide_eq_true_eq, beq_iff_eq, Char.toNat_inj]
  have hruns : inRuns separatorRuns c.toNat =
      ((0x2D ≤ c.toNat && c.toNat ≤ 0x2E) || ((0x5F ≤ c.toNat && c.toNat ≤ 0x5F) || isBlank c)) :=
    rfl
  have hunderscore : '_'.toNat = 0x5F := rfl
  have hdash : '-'.toNat = 0x2D := rfl
  have hpoint : '.'.toNat = 0x2E := rfl
  rw [hruns, isSeparator, hchar, hchar, hchar, hunderscore, hdash, hpoint]
  cases isBlank c with
  | true => simp
  | false =>
    rw [Bool.eq_iff_iff]
    simp only [Bool.or_false, Bool.or_eq_true, Bool.and_eq_true, decide_eq_true_eq, beq_iff_eq]
    omega

/-! ## Images of code points -/

/-- A code point has its images in the tables, unless it has none and stays. -/
theorem mem_changeCase {expansions : List CaseExpansion} {runs : List CaseRun} {n m : Nat}
    (h : m ∈ changeCase expansions runs n) :
    (∃ e ∈ expansions, m ∈ e.images) ∨
      (∃ run ∈ runs, run.image ≤ m ∧ m ≤ run.image + (run.last - run.first)) ∨ m = n := by
  rw [changeCase] at h
  split at h
  · rename_i e hfind
    exact .inl ⟨e, List.mem_of_find?_eq_some hfind, h⟩
  · rw [List.mem_singleton] at h
    cases hrun : runs.findSome? (·.imageOf? n) with
    | none =>
      rw [hrun] at h
      exact .inr (.inr h)
    | some image =>
      rw [hrun] at h
      obtain ⟨run, hmem, himage⟩ := List.exists_of_findSome?_eq_some hrun
      rw [CaseRun.imageOf?] at himage
      split at himage
      · rename_i hholds
        simp only [Bool.and_eq_true, decide_eq_true_eq] at hholds
        cases himage
        refine .inr (.inl ⟨run, hmem, ?_, ?_⟩)
        · rw [h, Option.getD_some]
          exact Nat.le_add_right _ _
        · rw [h, Option.getD_some]
          omega
      · cases himage

/-- Whether all images of a run lie on one side of each run of separators. -/
def Apart (run : CaseRun) : Prop :=
  ∀ separators ∈ separatorRuns,
    run.image + (run.last - run.first) < separators.1 ∨ separators.2 < run.image

instance (run : CaseRun) : Decidable (Apart run) :=
  inferInstanceAs (Decidable (∀ separators ∈ separatorRuns, _))

/-- Whether the tables have no separator among their images. -/
structure Clear (expansions : List CaseExpansion) (runs : List CaseRun) : Prop where
  /-- Letters do not become separators among others. -/
  expansions : ∀ e ∈ expansions, ∀ m ∈ e.images, inRuns separatorRuns m = false
  /-- Nor do they become separators alone. -/
  runs : ∀ run ∈ runs, Apart run

theorem clear_small : Clear smallExpansions smallRuns where
  expansions := by decide +kernel
  runs := by decide +kernel

theorem clear_capital : Clear capitalExpansions capitalRuns where
  expansions := by decide +kernel
  runs := by decide +kernel

theorem Clear.inRuns_eq_false {expansions : List CaseExpansion} {runs : List CaseRun}
    (h : Clear expansions runs) {n m : Nat} (hm : m ∈ changeCase expansions runs n)
    (hn : inRuns separatorRuns n = false) : inRuns separatorRuns m = false := by
  rcases mem_changeCase hm with ⟨e, he, himages⟩ | ⟨run, hrun, hfirst, hlast⟩ | rfl
  · exact h.expansions e he m himages
  · rw [inRuns, List.any_eq_false]
    intro separators hmem
    have hapart := h.runs run hrun separators hmem
    simp only [Bool.and_eq_true, decide_eq_true_eq]
    omega
  · exact hn

/-- An image is a separator as a character only if it is one as a code point. -/
theorem inRuns_toNat_ofNat {m : Nat} (h : inRuns separatorRuns m = false) :
    inRuns separatorRuns (Char.ofNat m).toNat = false := by
  by_cases hvalid : m.isValidChar
  · rw [Char.ofNat, dif_pos hvalid]
    exact h
  · rw [Char.ofNat, dif_neg hvalid]
    decide

/-! ## Changing case -/

theorem not_isSeparator_toLower : ∀ c : Char, c.toNat < 0x80 → isSeparator c = false →
    isSeparator c.toLower = false :=
  Text.forall_ascii (by decide +kernel)

theorem not_isSeparator_toUpper : ∀ c : Char, c.toNat < 0x80 → isSeparator c = false →
    isSeparator c.toUpper = false :=
  Text.forall_ascii (by decide +kernel)

section Case

variable {c d : Char} (hc : isSeparator c = false)

include hc

theorem not_isSeparator_of_mem_lowerChar (hd : d ∈ lowerChar c) : isSeparator d = false := by
  rw [lowerChar] at hd
  split at hd
  · rename_i hascii
    rw [List.mem_singleton.1 hd]
    exact not_isSeparator_toLower c hascii hc
  · obtain ⟨m, hm, rfl⟩ := List.mem_map.1 hd
    rw [isSeparator_eq] at hc ⊢
    exact inRuns_toNat_ofNat (clear_small.inRuns_eq_false hm hc)

theorem not_isSeparator_of_mem_upperChar (hd : d ∈ upperChar c) : isSeparator d = false := by
  rw [upperChar] at hd
  split at hd
  · rename_i hascii
    rw [List.mem_singleton.1 hd]
    exact not_isSeparator_toUpper c hascii hc
  · obtain ⟨m, hm, rfl⟩ := List.mem_map.1 hd
    rw [isSeparator_eq] at hc ⊢
    exact inRuns_toNat_ofNat (clear_capital.inRuns_eq_false hm hc)

end Case

/-! ## Words -/

theorem mem_closeWord {word other : List Char} :
    other ∈ closeWord word ↔ other = word ∧ word ≠ [] := by
  cases word with
  | nil => simp [closeWord]
  | cons c cs => simp [closeWord]

/-- No word is empty.  A character of a word stood in the word that had begun, or it is a small form
of a character that is no separator. -/
theorem of_mem_wordsFrom {word : List Char} {ended : Bool} {cs other : List Char}
    (h : other ∈ wordsFrom word ended cs) :
    other ≠ [] ∧ ∀ d ∈ other, d ∈ word ∨ ∃ c ∈ cs, isSeparator c = false ∧ d ∈ lowerChar c := by
  induction cs generalizing word ended with
  | nil =>
    obtain ⟨rfl, hne⟩ := mem_closeWord.1 h
    exact ⟨hne, fun _ => .inl⟩
  | cons c cs ih =>
    have hclosed (h : other ∈ closeWord word) : other ≠ [] ∧
        ∀ d ∈ other, d ∈ word ∨ ∃ c' ∈ c :: cs, isSeparator c' = false ∧ d ∈ lowerChar c' := by
      obtain ⟨rfl, hne⟩ := mem_closeWord.1 h
      exact ⟨hne, fun _ => .inl⟩
    -- The word that goes on is made of the one before and of the first character.
    have hgoesOn {next : List Char} {ended : Bool} (h : other ∈ wordsFrom next ended cs)
        (hnext : ∀ d ∈ next, d ∈ word ∨ isSeparator c = false ∧ d ∈ lowerChar c) : other ≠ [] ∧
        ∀ d ∈ other, d ∈ word ∨ ∃ c' ∈ c :: cs, isSeparator c' = false ∧ d ∈ lowerChar c' := by
      obtain ⟨hne, hmem⟩ := ih h
      refine ⟨hne, fun d hd => ?_⟩
      rcases hmem d hd with hd | ⟨c', hc', hsmall⟩
      · exact (hnext d hd).imp_right fun hsmall => ⟨c, List.mem_cons_self, hsmall⟩
      · exact .inr ⟨c', List.mem_cons_of_mem _ hc', hsmall⟩
    rw [wordsFrom] at h
    cases hc : isSeparator c with
    | true =>
      rw [hc, if_pos rfl] at h
      rcases List.mem_append.1 h with h | h
      · exact hclosed h
      · exact hgoesOn h fun _ hd => absurd hd List.not_mem_nil
    | false =>
      rw [hc, if_neg Bool.false_ne_true] at h
      split at h
      · rcases List.mem_append.1 h with h | h
        · exact hclosed h
        · exact hgoesOn h fun _ hd => .inr ⟨hc, hd⟩
      · exact hgoesOn h fun _ hd => (List.mem_append.1 hd).imp_right fun hd => ⟨hc, hd⟩

section Members

variable {identifier word : String} (h : word ∈ words identifier)

include h

theorem ne_empty_of_mem_words : word ≠ "" := by
  obtain ⟨cs, hcs, rfl⟩ := List.mem_map.1 h
  intro hempty
  have hnil : cs = [] := by simpa using congrArg String.toList hempty
  exact (of_mem_wordsFrom hcs).1 hnil

theorem exists_of_mem_words {d : Char} (hd : d ∈ word.toList) :
    ∃ c ∈ identifier.toList, isSeparator c = false ∧ d ∈ lowerChar c := by
  obtain ⟨cs, hcs, rfl⟩ := List.mem_map.1 h
  rw [String.toList_ofList] at hd
  exact ((of_mem_wordsFrom hcs).2 d hd).resolve_left List.not_mem_nil

/-- The words of an identifier hold no separator. -/
theorem not_isSeparator_of_mem_words {c : Char} (hc : c ∈ word.toList) :
    isSeparator c = false := by
  obtain ⟨d, _, hd, hsmall⟩ := exists_of_mem_words h hc
  exact not_isSeparator_of_mem_lowerChar hd hsmall

end Members

theorem not_isSeparator_of_mem_capitalise {word : String}
    (h : ∀ c ∈ word.toList, isSeparator c = false) {d : Char} (hd : d ∈ (capitalise word).toList) :
    isSeparator d = false := by
  rw [capitalise] at hd
  split at hd
  · cases hd
  · rename_i c cs hword
    rw [hword, List.forall_mem_cons] at h
    rw [String.toList_ofList] at hd
    rcases List.mem_append.1 hd with hd | hd
    · exact not_isSeparator_of_mem_upperChar h.1 hd
    · exact h.2 d hd

/-- A character that a word takes as it is. -/
structure Kept (c : Char) : Prop where
  /-- It does not end the word. -/
  inWord : isSeparator c = false
  /-- It does not start another. -/
  notCapital : isCapital c = false
  /-- It is its own small letter. -/
  small : lowerChar c = [c]

/-- A word goes on with characters that it takes as they are. -/
theorem wordsFrom_append {cs : List Char} (h : ∀ c ∈ cs, Kept c) (word : List Char) (ended : Bool)
    (ds : List Char) :
    ∃ ended', wordsFrom word ended (cs ++ ds) = wordsFrom (word ++ cs) ended' ds := by
  induction cs generalizing word ended with
  | nil => exact ⟨ended, by rw [List.nil_append, List.append_nil]⟩
  | cons c cs ih =>
    obtain ⟨hc, hcs⟩ := List.forall_mem_cons.1 h
    obtain ⟨ended', hrest⟩ := ih hcs (word ++ [c]) (endsWord c)
    refine ⟨ended', ?_⟩
    rw [List.cons_append, wordsFrom, hc.inWord, if_neg Bool.false_ne_true, hc.notCapital,
      Bool.false_and, if_neg Bool.false_ne_true, hc.small, hrest, List.append_assoc,
      List.singleton_append]

theorem wordsFrom_of_kept {cs : List Char} (h : ∀ c ∈ cs, Kept c) (word : List Char)
    (ended : Bool) : wordsFrom word ended cs = closeWord (word ++ cs) := by
  obtain ⟨ended', happend⟩ := wordsFrom_append h word ended []
  rwa [List.append_nil, wordsFrom] at happend

/-! ## Spellings -/

/-- A single word is spelled as it is. -/
theorem lowerUnderscore_of_kept {identifier : String} (h : ∀ c ∈ identifier.toList, Kept c) :
    lowerUnderscore identifier = identifier := by
  rw [lowerUnderscore, words, wordsFrom_of_kept h, List.nil_append]
  by_cases hempty : identifier = ""
  · rw [hempty]
    rfl
  · have hlist : identifier.toList ≠ [] := fun hnil => hempty (String.toList_inj.1 hnil)
    rw [closeWord, if_neg (by simpa using hlist), List.map_singleton, String.ofList_toList,
      joinWith]

theorem point_not_mem_upperCamel (identifier : String) :
    '.' ∉ (upperCamel identifier).toList := by
  intro hpoint
  rcases Text.mem_joinWith hpoint with hpoint | ⟨piece, hpiece, hpoint⟩
  · cases hpoint
  · obtain ⟨word, hword, rfl⟩ := List.mem_map.1 hpiece
    have hfalse := not_isSeparator_of_mem_capitalise
      (fun c hc => not_isSeparator_of_mem_words hword hc) hpoint
    exact absurd hfalse (by decide)

theorem point_not_mem_lowerUnderscore (identifier : String) :
    '.' ∉ (lowerUnderscore identifier).toList := by
  intro hpoint
  rcases Text.mem_joinWith hpoint with hpoint | ⟨word, hword, hpoint⟩
  · exact absurd hpoint (by decide)
  · exact absurd (not_isSeparator_of_mem_words hword hpoint) (by decide)

end SampleForge.Identifier
