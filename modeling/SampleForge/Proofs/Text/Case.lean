import SampleForge.Text.Case

/-!
# Small texts

A text that was made small stays as it is when it is made small again (`lower_lower`).  What a
character becomes is *settled*: it becomes itself, whatever its neighbours are.  Beyond ASCII this
holds since the images of each run of capitals keep clear of all the runs (`CaseRun.avoids`).
-/

namespace SampleForge.Text

/-- Whether a character becomes itself when it is made small. -/
def Settled (c : Char) : Prop := lowerChar c = [c]

instance (c : Char) : Decidable (Settled c) := inferInstanceAs (Decidable (_ = _))

theorem Settled.ne_sigma {c : Char} (h : Settled c) : c ≠ 'Σ' := by
  rintro rfl
  exact absurd h (by decide)

/-- What holds of the code points of ASCII holds of its characters. -/
theorem forall_ascii {P : Char → Prop} (h : ∀ n < 0x80, P (Char.ofNat n)) :
    ∀ c : Char, c.toNat < 0x80 → P c := by
  intro c hc
  have hnat := h c.toNat hc
  rwa [Char.ofNat_toNat] at hnat

/-! ## The tables -/

/-- Whether the images of a run lie clear of another run: before it, behind it, or between its
members. -/
def CaseRun.avoids (run other : CaseRun) : Bool :=
  Nat.blt (run.image + (run.last - run.first)) other.first || Nat.blt other.last run.image ||
    (other.stride == 2 && (run.stride == 2 || run.first == run.last) &&
      (run.image + other.first) % 2 == 1)

theorem imageOf?_eq_none {run other : CaseRun} (h : run.avoids other = true) {i : Nat}
    (hi : i ≤ run.last - run.first) (hstride : i % run.stride = 0) :
    other.imageOf? (run.image + i) = none := by
  have hholds : ¬ (other.first ≤ run.image + i ∧ run.image + i ≤ other.last ∧
      (run.image + i - other.first) % other.stride = 0) := by
    rintro ⟨hfirst, hlast, hmod⟩
    simp only [CaseRun.avoids, Bool.or_eq_true, Bool.and_eq_true, Nat.blt_eq, beq_iff_eq] at h
    rcases h with (hbefore | hbehind) | ⟨⟨htwo, hrun⟩, hodd⟩
    · omega
    · omega
    · rw [htwo] at hmod
      rcases hrun with hrun | hrun
      · rw [hrun] at hstride
        omega
      · omega
  rw [CaseRun.imageOf?, if_neg]
  simpa [and_assoc] using hholds

/-- Whether the images of a run stay as they are when they are made small again. -/
def CaseRun.keeps (run : CaseRun) : Bool :=
  Nat.blt 0x5A run.image && smallRuns.all run.avoids &&
    smallExpansions.all fun e =>
      Nat.blt (run.image + (run.last - run.first)) e.letter || Nat.blt e.letter run.image

theorem keeps_smallRuns : smallRuns.all CaseRun.keeps = true := by
  decide +kernel

theorem settled_expansions : ∀ e ∈ smallExpansions, ∀ m ∈ e.images, Settled (Char.ofNat m) := by
  decide +kernel

theorem settled_toLower : ∀ c : Char, c.toNat < 0x80 → Settled c.toLower :=
  forall_ascii (by decide +kernel)

theorem settled_above_capitals : ∀ n < 0x80, 0x5A < n → Settled (Char.ofNat n) := by
  decide +kernel

/-! ## Characters -/

/-- A code point beyond the capitals of ASCII is settled if the tables do not change it. -/
theorem settled_ofNat {m : Nat} (hm : 0x5A < m)
    (h : changeCase smallExpansions smallRuns m = [m]) : Settled (Char.ofNat m) := by
  by_cases hascii : m < 0x80
  · exact settled_above_capitals m hascii hm
  · -- A code point that is no character stands for the null character, which is settled.
    by_cases hvalid : m.isValidChar
    · have hnat : (Char.ofNat m).toNat = m := by
        rw [Char.ofNat, dif_pos hvalid]
        rfl
      rw [Settled, lowerChar, hnat, if_neg hascii, h]
      rfl
    · rw [Char.ofNat, dif_neg hvalid]
      decide

theorem changeCase_of_keeps {run : CaseRun} (h : run.keeps = true) {i : Nat}
    (hi : i ≤ run.last - run.first) (hstride : i % run.stride = 0) :
    changeCase smallExpansions smallRuns (run.image + i) = [run.image + i] := by
  simp only [CaseRun.keeps, Bool.and_eq_true, List.all_eq_true, Bool.or_eq_true, Nat.blt_eq] at h
  obtain ⟨⟨_, hruns⟩, hexpansions⟩ := h
  have hnone : smallExpansions.find? (·.letter == run.image + i) = none := by
    rw [List.find?_eq_none]
    intro e he heq
    have hletter : e.letter = run.image + i := eq_of_beq heq
    rcases hexpansions e he with hbefore | hbehind
    · omega
    · omega
  have hstays : smallRuns.findSome? (·.imageOf? (run.image + i)) = none := by
    rw [List.findSome?_eq_none_iff]
    exact fun other hother => imageOf?_eq_none (hruns other hother) hi hstride
  rw [changeCase, hnone, hstays]
  rfl

theorem imageOf?_eq_some {run : CaseRun} {n m : Nat} (h : run.imageOf? n = some m) :
    ∃ i ≤ run.last - run.first, i % run.stride = 0 ∧ m = run.image + i := by
  rw [CaseRun.imageOf?] at h
  split at h
  · rename_i hholds
    simp only [Bool.and_eq_true, decide_eq_true_eq, beq_iff_eq] at hholds
    obtain ⟨⟨hfirst, hlast⟩, hstride⟩ := hholds
    cases h
    exact ⟨n - run.first, by omega, hstride, rfl⟩
  · cases h

theorem settled_of_mem_changeCase {n m : Nat} (hn : 0x80 ≤ n)
    (h : m ∈ changeCase smallExpansions smallRuns n) : Settled (Char.ofNat m) := by
  cases hfind : smallExpansions.find? (·.letter == n) with
  | some e =>
    rw [changeCase, hfind] at h
    exact settled_expansions e (List.mem_of_find?_eq_some hfind) m h
  | none =>
    cases hrun : smallRuns.findSome? (·.imageOf? n) with
    | none =>
      have hsame : changeCase smallExpansions smallRuns n = [n] := by
        rw [changeCase, hfind, hrun]
        rfl
      rw [hsame, List.mem_singleton] at h
      rw [h]
      exact settled_ofNat (by omega) hsame
    | some image =>
      have hm : m = image := by
        rw [changeCase, hfind, hrun] at h
        exact List.mem_singleton.1 h
      obtain ⟨run, hmem, himage⟩ := List.exists_of_findSome?_eq_some hrun
      obtain ⟨i, hi, hstride, rfl⟩ := imageOf?_eq_some himage
      have hkeeps : run.keeps = true := List.all_eq_true.1 keeps_smallRuns run hmem
      have habove : 0x5A < run.image := by
        simp only [CaseRun.keeps, Bool.and_eq_true, Nat.blt_eq] at hkeeps
        exact hkeeps.1.1
      rw [hm]
      exact settled_ofNat (by omega) (changeCase_of_keeps hkeeps hi hstride)

theorem settled_of_mem_lowerChar {c d : Char} (h : d ∈ lowerChar c) : Settled d := by
  rw [lowerChar] at h
  split at h
  · rename_i hascii
    rw [List.mem_singleton.1 h]
    exact settled_toLower c hascii
  · rename_i hbeyond
    obtain ⟨m, hm, rfl⟩ := List.mem_map.1 h
    exact settled_of_mem_changeCase (by omega) hm

/-! ## Texts -/

theorem settled_of_mem_lowerAfter {before : Bool} {cs : List Char} {d : Char}
    (h : d ∈ lowerAfter before cs) : Settled d := by
  induction cs generalizing before with
  | nil => cases h
  | cons c cs ih =>
    rw [lowerAfter, List.mem_append] at h
    rcases h with h | h
    · split at h
      · rw [List.mem_singleton] at h
        subst h
        split
        · decide
        · decide
      · exact settled_of_mem_lowerChar h
    · exact ih h

theorem lowerAfter_of_settled {cs : List Char} (h : ∀ c ∈ cs, Settled c) (before : Bool) :
    lowerAfter before cs = cs := by
  induction cs generalizing before with
  | nil => rfl
  | cons c cs ih =>
    obtain ⟨hc, hcs⟩ := List.forall_mem_cons.1 h
    rw [lowerAfter, if_neg hc.ne_sigma, hc, ih hcs]
    rfl

/-- A text of settled characters is small. -/
theorem lower_of_settled {s : String} (h : ∀ c ∈ s.toList, Settled c) : lower s = s := by
  rw [lower, lowerAfter_of_settled h, String.ofList_toList]

theorem settled_of_mem_lower {s : String} {c : Char} (h : c ∈ (lower s).toList) : Settled c := by
  rw [lower, String.toList_ofList] at h
  exact settled_of_mem_lowerAfter h

@[simp] theorem lower_lower (s : String) : lower (lower s) = lower s :=
  lower_of_settled fun _ h => settled_of_mem_lower h

end SampleForge.Text
