import Mathlib.Data.List.Induction
import SampleForge.Text.Pieces

/-!
# Replacing parts of a text

`replaceChar` puts one character for another, and `replaceAll` one text for another, from left to
right.

What is replaced ends with a certain character.  So a text without this character is left alone, and
also what follows another text is (`replaceAll_append_of_not_mem`).  What starts with the text that
is replaced starts with the new one afterwards (`replaceAll_start`).
-/

namespace SampleForge.Text

/-! ## Characters -/

theorem replaceChar_append (old new : Char) (s t : String) :
    replaceChar old new (s ++ t) = replaceChar old new s ++ replaceChar old new t := by
  rw [replaceChar, String.toList_append, List.map_append, String.ofList_append]
  rfl

theorem replaceChar_of_not_mem {old : Char} (new : Char) {s : String} (h : old ∉ s.toList) :
    replaceChar old new s = s := by
  have hkept : s.toList.map (fun c => if c = old then new else c) = s.toList := by
    refine (List.map_congr_left fun c hc => ?_).trans (List.map_id _)
    have hne : c ≠ old := fun heq => h (heq ▸ hc)
    rw [if_neg hne, id]
  rw [replaceChar, hkept, String.ofList_toList]

/-! ## Texts -/

/-- Characters with some of them put for others wherever these stand, from left to right. -/
def replaceList (old new : List Char) : List Char → List Char
  | [] => []
  | c :: cs =>
      if old.isPrefixOf (c :: cs) then new ++ replaceList old new (cs.drop (old.length - 1))
      else c :: replaceList old new cs
termination_by cs => cs.length
decreasing_by
  · simp only [List.length_drop, List.length_cons]
    omega
  · simp

/-- A text with one text put for another, which is not empty, wherever that stands. -/
def replaceAll (old new s : String) : String :=
  String.ofList (replaceList old.toList new.toList s.toList)

section

variable {old new : List Char}

theorem replaceList_start (hold : old ≠ []) (cs : List Char) :
    replaceList old new (old ++ cs) = new ++ replaceList old new cs := by
  obtain ⟨c, rest, rfl⟩ := List.exists_cons_of_ne_nil hold
  have hstart : (c :: rest).isPrefixOf (c :: (rest ++ cs)) = true :=
    List.isPrefixOf_iff_prefix.2 (List.prefix_append (c :: rest) cs)
  rw [List.cons_append, replaceList, if_pos hstart, List.length_cons, Nat.add_sub_cancel,
    List.drop_left]

variable {last : Char} (hlast : old.getLast? = some last)

include hlast

/-- What ends with a character does not reach into a text without it. -/
theorem isPrefixOf_append {cs rest : List Char} (h : last ∉ rest) :
    old.isPrefixOf (cs ++ rest) = old.isPrefixOf cs := by
  rw [Bool.eq_iff_iff, List.isPrefixOf_iff_prefix, List.isPrefixOf_iff_prefix]
  constructor
  · rintro ⟨behind, hstart⟩
    rcases List.append_eq_append_iff.1 hstart with ⟨inside, rfl, _⟩ | ⟨beyond, rfl, hrest⟩
    · exact List.prefix_append old inside
    · -- What reaches beyond ends with the character, unless nothing does.
      cases beyond using List.reverseRecOn with
      | nil => simp
      | append_singleton beyond c =>
        rw [← List.append_assoc, List.getLast?_concat, Option.some.injEq] at hlast
        rw [hrest, hlast] at h
        simp at h
  · intro hstart
    exact hstart.trans (List.prefix_append cs rest)

theorem replaceList_of_not_mem {cs : List Char} (h : last ∉ cs) : replaceList old new cs = cs := by
  have hold : old.isPrefixOf [] = false := by
    cases old with
    | nil => cases hlast
    | cons c rest => rfl
  induction cs with
  | nil => rw [replaceList]
  | cons c cs ih =>
    have hstart : old.isPrefixOf (c :: cs) = false := by
      rw [← List.nil_append (c :: cs), isPrefixOf_append hlast h, hold]
    rw [replaceList, hstart, if_neg Bool.false_ne_true, ih (List.not_mem_of_not_mem_cons h)]

theorem replaceList_append_of_not_mem {cs rest : List Char} (h : last ∉ rest) :
    replaceList old new (cs ++ rest) = replaceList old new cs ++ rest := by
  fun_induction replaceList old new cs with
  | case1 => exact replaceList_of_not_mem hlast h
  | case2 c cs hstart ih =>
    have hlength : old.length - 1 ≤ cs.length := by
      have hle := (List.isPrefixOf_iff_prefix.1 hstart).length_le
      rw [List.length_cons] at hle
      omega
    have hstarts : old.isPrefixOf (c :: (cs ++ rest)) = true := by
      rwa [← List.cons_append, isPrefixOf_append hlast h]
    rw [List.cons_append, replaceList, if_pos hstarts, List.drop_append_of_le_length hlength, ih,
      List.append_assoc]
  | case3 c cs hstart ih =>
    have hstarts : ¬ old.isPrefixOf (c :: (cs ++ rest)) = true := by
      rwa [← List.cons_append, isPrefixOf_append hlast h]
    rw [List.cons_append, replaceList, if_neg hstarts, ih, List.cons_append]

end

theorem replaceAll_start {old : String} (new : String) (hold : old ≠ "") (s : String) :
    replaceAll old new (old ++ s) = new ++ replaceAll old new s := by
  have hlist : old.toList ≠ [] := fun h => hold (String.toList_inj.1 h)
  rw [replaceAll, String.toList_append, replaceList_start hlist, String.ofList_append,
    String.ofList_toList, replaceAll]

theorem replaceAll_append_of_not_mem {old : String} {last : Char}
    (hlast : old.toList.getLast? = some last) (new s : String) {rest : String}
    (h : last ∉ rest.toList) : replaceAll old new (s ++ rest) = replaceAll old new s ++ rest := by
  rw [replaceAll, String.toList_append, replaceList_append_of_not_mem hlast h,
    String.ofList_append, String.ofList_toList, replaceAll]

theorem replaceAll_of_not_mem {old : String} {last : Char}
    (hlast : old.toList.getLast? = some last) (new : String) {s : String} (h : last ∉ s.toList) :
    replaceAll old new s = s := by
  rw [replaceAll, replaceList_of_not_mem hlast h, String.ofList_toList]

example : replaceAll "ab" "c" "aabab" = "acc" := by decide +kernel

end SampleForge.Text
