import SampleForge.Files.Path
import SampleForge.Proofs.Text.Pieces

/-!
# Segments of joined paths and of parents

A relative path seen from a base leads along the segments of the base and then along its own
(`segments_join`).  If its last piece is a real segment, then its parent leads along the segments
before that one (`parent?_spec`).  The parent is a start of the path, and starts where the path
does.
-/

namespace SampleForge.Path

open Text (hasStart joinWith joinWith_append split)

/-! ## Pieces and segments -/

/-- The members of a list of pieces that lead somewhere. -/
def real (pieces : List String) : List String := pieces.filter fun s => !isIdle s

theorem segments_eq_real (path : String) : segments path = real (split '/' path) := rfl

theorem real_append (first rest : List String) : real (first ++ rest) = real first ++ real rest :=
  List.filter_append first rest

theorem real_eq_nil {pieces : List String} (h : ∀ s ∈ pieces, isIdle s = true) :
    real pieces = [] := by
  rw [real, List.filter_eq_nil_iff]
  intro s hs
  simp [h s hs]

theorem real_eq_self {pieces : List String} (h : ∀ s ∈ pieces, isIdle s = false) :
    real pieces = pieces := by
  rw [real, List.filter_eq_self]
  intro s hs
  simp [h s hs]

/-- A path is absolute if its first piece is empty and not its only one. -/
theorem isAbsolute_iff {path : String} :
    isAbsolute path = true ↔ ∃ rest, rest ≠ [] ∧ split '/' path = "" :: rest := by
  have hempty : isAbsolute path = hasStart ("" ++ String.singleton '/') path := rfl
  rw [hempty, Text.hasStart_iff_split]
  rfl

/-! ## Joining -/

/-- The pieces of a relative path seen from a base stand behind pieces that lead where the base
does. -/
theorem split_join (base : String) {path : String} (h : isAbsolute path = false) :
    ∃ before, split '/' (join base path) = before ++ split '/' path ∧
      real before = segments base := by
  rw [join, if_neg (by simp [h])]
  split
  · rename_i hempty
    subst hempty
    exact ⟨[], rfl, by decide⟩
  · rename_i hne
    split
    · rename_i hlast
      obtain ⟨before, hbefore⟩ := List.getLast?_eq_some_iff.1 hlast
      have hnil : before ≠ [] := by
        rintro rfl
        have hbase := Text.joinWith_split '/' base
        rw [hbefore] at hbase
        exact hne hbase.symm
      have hbase : base = joinWith "/" before ++ String.singleton '/' := by
        have hjoin := Text.joinWith_split '/' base
        rw [hbefore, Text.joinWith_append _ hnil (List.cons_ne_nil _ _)] at hjoin
        rw [← hjoin]
        simp [joinWith]
      have hpieces : split '/' (joinWith "/" before) = before := by
        refine Text.split_joinWith hnil fun s hs => ?_
        exact Text.not_mem_of_mem_split (hbefore ▸ List.mem_append_left _ hs)
      refine ⟨before, ?_, ?_⟩
      · rw [hbase, Text.split_append, hpieces]
      · rw [segments_eq_real, hbefore, real_append]
        simp [real, isIdle]
    · exact ⟨split '/' base, Text.split_append '/' base path, rfl⟩

theorem segments_join (base : String) {path : String} (h : isAbsolute path = false) :
    segments (join base path) = segments base ++ segments path := by
  obtain ⟨before, hsplit, hreal⟩ := split_join base h
  rw [segments_eq_real, hsplit, real_append, hreal]
  rfl

theorem isAbsolute_append {base : String} (h : base ≠ "") (s : String) :
    isAbsolute (base ++ s) = isAbsolute base := by
  have hlist : base.toList ≠ [] := fun hnil => h (String.toList_inj.1 hnil)
  obtain ⟨c, cs, hbase⟩ := List.exists_cons_of_ne_nil hlist
  simp [isAbsolute, hasStart, hbase, List.isPrefixOf]

/-- A joined path starts where its base does. -/
theorem isAbsolute_join (base : String) {path : String} (h : isAbsolute path = false) :
    isAbsolute (join base path) = isAbsolute base := by
  rw [join, if_neg (by simp [h])]
  split
  · rename_i hempty
    rw [hempty, h]
    rfl
  · rename_i hne
    split
    · exact isAbsolute_append hne path
    · rw [String.append_assoc]
      exact isAbsolute_append hne _

/-! ## Parents -/

theorem trimIdle_cons {s : String} (h : isIdle s = false) (rest : List String) :
    trimIdle (s :: rest) = s :: rest := by
  cases rest with
  | nil =>
    rw [trimIdle]
    intro hdot
    subst hdot
    exact absurd h (by decide)
  | cons t rest => simp [trimIdle, h]

/-- What is trimmed off leads nowhere, and something is left. -/
theorem trimIdle_spec {pieces : List String} (h : pieces ≠ []) :
    trimIdle pieces ≠ [] ∧
      ∃ dropped, (∀ s ∈ dropped, isIdle s = true) ∧ pieces = dropped ++ trimIdle pieces := by
  fun_induction trimIdle pieces with
  | case1 => exact absurd rfl h
  | case2 => exact ⟨List.cons_ne_nil _ _, [], by simp, rfl⟩
  | case3 s _ => exact ⟨List.cons_ne_nil _ _, [], by simp, rfl⟩
  | case4 s rest _ hrest hidle ih =>
    obtain ⟨hkept, dropped, hdropped, heq⟩ := ih hrest
    refine ⟨hkept, s :: dropped, ?_, congrArg (s :: ·) heq⟩
    exact List.forall_mem_cons.2 ⟨hidle, hdropped⟩
  | case5 s rest _ _ hreal =>
    exact ⟨List.cons_ne_nil _ _, [], by simp, rfl⟩

/-- The text of the pieces of a directory.  A single empty piece is that of the root. -/
def textOf (pieces : List String) : String :=
  if pieces = [""] then "/" else joinWith "/" pieces

/-- The parent is the text of the pieces before the last one, without those at the end that lead
nowhere. -/
theorem parent?_eq {path last : String} {before : List String}
    (hsplit : split '/' path = before ++ [last]) (hlast : isIdle last = false)
    (hbefore : before ≠ []) :
    ∃ kept dropped, before = kept ++ dropped ∧ kept ≠ [] ∧ (∀ s ∈ dropped, isIdle s = true) ∧
      parent? path = some (textOf kept) := by
  have hreverse : before.reverse ≠ [] := fun h => hbefore (List.reverse_eq_nil_iff.1 h)
  obtain ⟨hkept, dropped, hdropped, heq⟩ := trimIdle_spec hreverse
  refine ⟨(trimIdle before.reverse).reverse, dropped.reverse, ?_,
    fun h => hkept (List.reverse_eq_nil_iff.1 h),
    fun s hs => hdropped s (List.mem_reverse.1 hs), ?_⟩
  · rw [← List.reverse_append, ← heq, List.reverse_reverse]
  · rw [parent?, hsplit, List.reverse_append, List.reverse_singleton, List.singleton_append,
      trimIdle_cons hlast]
    obtain ⟨s, rest, hcons⟩ := List.exists_cons_of_ne_nil hreverse
    rw [hcons]
    by_cases hroot : trimIdle (s :: rest) = [""]
    · simp [hroot, textOf]
    · simp [hroot, textOf, List.reverse_eq_iff]

/-- What a directory is called leads where its pieces do, starts where they do, and is a start of
every path with these pieces and more. -/
theorem textOf_spec {path : String} {pieces rest : List String}
    (hsplit : split '/' path = pieces ++ rest) (hpieces : pieces ≠ []) (hrest : rest ≠ []) :
    segments (textOf pieces) = real pieces ∧
      isAbsolute (textOf pieces) = isAbsolute path ∧ ∃ s, path = textOf pieces ++ s := by
  have hpath : path = joinWith "/" pieces ++ "/" ++ joinWith "/" rest := by
    rw [← joinWith_append _ hpieces hrest, ← hsplit]
    exact (Text.joinWith_split '/' path).symm
  by_cases hroot : pieces = [""]
  · subst hroot
    have habsolute : isAbsolute path = true := isAbsolute_iff.2 ⟨rest, hrest, hsplit⟩
    obtain ⟨s, hs⟩ := Text.hasStart_iff.1 habsolute
    exact ⟨by decide, habsolute.symm, s, hs⟩
  · have htext : textOf pieces = joinWith "/" pieces := if_neg hroot
    have hpiecesOf : split '/' (joinWith "/" pieces) = pieces := by
      refine Text.split_joinWith hpieces fun s hs => ?_
      exact Text.not_mem_of_mem_split (hsplit ▸ List.mem_append_left _ hs)
    rw [htext]
    refine ⟨by rw [segments_eq_real, hpiecesOf], ?_, _, by rw [← String.append_assoc]; exact hpath⟩
    rw [Bool.eq_iff_iff, isAbsolute_iff, isAbsolute_iff, hpiecesOf, hsplit]
    obtain ⟨first, others, rfl⟩ := List.exists_cons_of_ne_nil hpieces
    simp only [List.cons_append, List.cons.injEq]
    constructor
    · rintro ⟨_, _, rfl, _⟩
      exact ⟨others ++ rest, by simp [hrest], rfl, rfl⟩
    · rintro ⟨_, _, rfl, _⟩
      exact ⟨others, fun h => hroot (by rw [h]), rfl, rfl⟩

/-- The parent of a path whose last piece is a real segment. -/
theorem parent?_spec {path last : String} {before : List String}
    (hsplit : split '/' path = before ++ [last]) (hlast : isIdle last = false) :
    ∃ parent, parent? path = some parent ∧ segments parent = real before ∧
      isAbsolute parent = isAbsolute path ∧ ∃ s, path = parent ++ s := by
  by_cases hbefore : before = []
  · subst hbefore
    have hrelative : isAbsolute path = false := by
      rw [← Bool.not_eq_true, isAbsolute_iff]
      rintro ⟨rest, hne, hcons⟩
      rw [hsplit] at hcons
      cases hcons
      exact hne rfl
    have hne : last ≠ "" := by
      rintro rfl
      exact absurd hlast (by decide)
    refine ⟨"", ?_, rfl, hrelative.symm, path, by simp⟩
    rw [parent?, hsplit]
    simp [trimIdle_cons hlast, hne]
  · obtain ⟨kept, dropped, rfl, hkept, hdropped, hparent⟩ := parent?_eq hsplit hlast hbefore
    rw [List.append_assoc] at hsplit
    obtain ⟨hsegments, habsolute, hstart⟩ := textOf_spec hsplit hkept (by simp)
    refine ⟨_, hparent, ?_, habsolute, hstart⟩
    rw [hsegments, real_append, real_eq_nil hdropped, List.append_nil]

/-! ## Paths of files -/

section File

variable (base : String) {path last : String} {before : List String}
  (hrelative : isAbsolute path = false) (hsplit : split '/' path = before ++ [last])

include hrelative hsplit

/-- The parent of a file seen from a base leads along the segments of the base and then along those
before the last one. -/
theorem parent?_join (hlast : isIdle last = false) :
    ∃ parent, parent? (join base path) = some parent ∧
      segments parent = segments base ++ real before ∧
      isAbsolute parent = isAbsolute base ∧ ∃ s, join base path = parent ++ s := by
  obtain ⟨first, hjoin, hfirst⟩ := split_join base hrelative
  rw [hsplit, ← List.append_assoc] at hjoin
  obtain ⟨parent, hparent, hsegments, habsolute, hstart⟩ := parent?_spec hjoin hlast
  rw [real_append, hfirst] at hsegments
  rw [isAbsolute_join base hrelative] at habsolute
  exact ⟨parent, hparent, hsegments, habsolute, hstart⟩

theorem wantsDirectory_join (hlast : isIdle last = false) :
    wantsDirectory (join base path) = false := by
  obtain ⟨first, hjoin, _⟩ := split_join base hrelative
  rw [hsplit, ← List.append_assoc] at hjoin
  simp [wantsDirectory, hjoin, hlast]

theorem join_ne_empty (hlast : isIdle last = false) : join base path ≠ "" := by
  obtain ⟨first, hjoin, _⟩ := split_join base hrelative
  rw [hsplit, ← List.append_assoc] at hjoin
  intro hempty
  rw [hempty] at hjoin
  have hpiece : (first ++ before ++ [last]).getLast? = some "" := by
    rw [← hjoin]
    rfl
  rw [List.getLast?_concat] at hpiece
  cases hpiece
  exact absurd hlast (by decide)

end File

end SampleForge.Path
