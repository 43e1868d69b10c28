import SampleForge.Text.Pieces

/-!
# What the pieces of a text hold

The pieces of a text hold its characters other than the separator, and nothing else
(`mem_of_mem_splitList`, `exists_mem_splitList`).  Pieces without the separator in them are the
pieces of their join (`split_joinWith`), and a text without it that follows another goes to the
last piece (`split_append_of_not_mem`).  The pieces of one text are the first ones of another, with
more behind them, exactly if the other starts with the text and a separator (`hasStart_iff_split`).
A text occurs in another exactly where the other can be cut around it (`occursIn_iff`).
-/

namespace SampleForge.Text

theorem splitList_cons_self (sep : Char) (cs : List Char) :
    splitList sep (sep :: cs) = [] :: splitList sep cs := by
  simp [splitList, cut]

theorem splitList_cons_of_ne {sep c : Char} (h : c ≠ sep) (cs : List Char) :
    splitList sep (c :: cs) = (c :: (cut sep cs).1) :: (cut sep cs).2 := by
  simp [splitList, cut, h]

/-- A piece holds characters of the text, and not the separator. -/
theorem mem_of_mem_splitList {sep c : Char} {piece cs : List Char}
    (hpiece : piece ∈ splitList sep cs) (hc : c ∈ piece) : c ∈ cs ∧ c ≠ sep := by
  induction cs generalizing piece with
  | nil =>
    simp only [splitList, cut, List.mem_singleton] at hpiece
    subst hpiece
    cases hc
  | cons d cs ih =>
    by_cases hd : d = sep
    · subst hd
      rw [splitList_cons_self] at hpiece
      rcases List.mem_cons.1 hpiece with rfl | hrest
      · cases hc
      · obtain ⟨hmem, hne⟩ := ih hrest hc
        exact ⟨List.mem_cons_of_mem _ hmem, hne⟩
    · rw [splitList_cons_of_ne hd] at hpiece
      rcases List.mem_cons.1 hpiece with rfl | hrest
      · rcases List.mem_cons.1 hc with rfl | hc
        · exact ⟨List.mem_cons_self, hd⟩
        · obtain ⟨hmem, hne⟩ := ih (List.mem_cons_self) hc
          exact ⟨List.mem_cons_of_mem _ hmem, hne⟩
      · obtain ⟨hmem, hne⟩ := ih (List.mem_cons_of_mem _ hrest) hc
        exact ⟨List.mem_cons_of_mem _ hmem, hne⟩

/-- Every character other than the separator is in a piece. -/
theorem exists_mem_splitList {sep c : Char} {cs : List Char} (hc : c ∈ cs) (hne : c ≠ sep) :
    ∃ piece ∈ splitList sep cs, c ∈ piece := by
  induction cs with
  | nil => cases hc
  | cons d cs ih =>
    by_cases hd : d = sep
    · subst hd
      rw [splitList_cons_self]
      rcases List.mem_cons.1 hc with rfl | hc
      · exact absurd rfl hne
      · obtain ⟨piece, hpiece, hmem⟩ := ih hc
        exact ⟨piece, List.mem_cons_of_mem _ hpiece, hmem⟩
    · rw [splitList_cons_of_ne hd]
      rcases List.mem_cons.1 hc with rfl | hc
      · exact ⟨_, List.mem_cons_self, List.mem_cons_self⟩
      · obtain ⟨piece, hpiece, hmem⟩ := ih hc
        rcases List.mem_cons.1 hpiece with rfl | hrest
        · exact ⟨_, List.mem_cons_self, List.mem_cons_of_mem _ hmem⟩
        · exact ⟨piece, List.mem_cons_of_mem _ hrest, hmem⟩

/-! ## Cutting a join -/

/-- A separator ends a piece, so what stands before it and what stands behind it are cut apart. -/
theorem splitList_append (sep : Char) (cs ds : List Char) :
    splitList sep (cs ++ sep :: ds) = splitList sep cs ++ splitList sep ds := by
  induction cs with
  | nil => exact splitList_cons_self sep ds
  | cons c cs ih =>
    by_cases hc : c = sep
    · subst hc
      rw [List.cons_append, splitList_cons_self, splitList_cons_self, ih, List.cons_append]
    · simp only [splitList, List.cons_append, List.cons.injEq] at ih
      rw [List.cons_append, splitList_cons_of_ne hc, splitList_cons_of_ne hc, ih.1, ih.2]
      rfl

theorem split_append (sep : Char) (s t : String) :
    split sep (s ++ String.singleton sep ++ t) = split sep s ++ split sep t := by
  simp [split, splitList_append]

theorem splitList_of_not_mem {sep : Char} {piece : List Char} (h : sep ∉ piece) :
    splitList sep piece = [piece] := by
  induction piece with
  | nil => rfl
  | cons c piece ih =>
    rw [List.mem_cons, not_or] at h
    obtain ⟨hne, hpiece⟩ := h
    have hcut := ih hpiece
    simp only [splitList, List.cons.injEq] at hcut
    rw [splitList_cons_of_ne (Ne.symm hne), hcut.1, hcut.2]

/-- Pieces without the separator are the pieces of their join. -/
theorem split_joinWith {sep : Char} {pieces : List String} (hne : pieces ≠ [])
    (h : ∀ piece ∈ pieces, sep ∉ piece.toList) :
    split sep (joinWith (String.singleton sep) pieces) = pieces := by
  induction pieces with
  | nil => exact absurd rfl hne
  | cons piece rest ih =>
    have hpiece := h piece List.mem_cons_self
    cases rest with
    | nil => simp [joinWith, split, splitList_of_not_mem hpiece]
    | cons next rest =>
      have hrest := ih (List.cons_ne_nil _ _) fun p hp => h p (List.mem_cons_of_mem _ hp)
      have hlist : (joinWith (String.singleton sep) (piece :: next :: rest)).toList =
          piece.toList ++ sep :: (joinWith (String.singleton sep) (next :: rest)).toList := by
        simp [joinWith]
      rw [split, hlist, splitList_append, splitList_of_not_mem hpiece, List.map_append,
        List.map_singleton, String.ofList_toList]
      exact congrArg (piece :: ·) hrest

/-- A join of two lists has a separator between the joins of each. -/
theorem joinWith_append (sep : String) {first rest : List String} (hfirst : first ≠ [])
    (hrest : rest ≠ []) :
    joinWith sep (first ++ rest) = joinWith sep first ++ sep ++ joinWith sep rest := by
  induction first with
  | nil => exact absurd rfl hfirst
  | cons s first ih =>
    cases first with
    | nil =>
      cases rest with
      | nil => exact absurd rfl hrest
      | cons t rest => rfl
    | cons t first =>
      have htail := ih (List.cons_ne_nil _ _)
      simp only [List.cons_append, joinWith] at htail ⊢
      rw [htail]
      simp only [String.append_assoc]

/-- A join holds the characters of its members and of the separator. -/
theorem mem_joinWith {sep : String} {pieces : List String} {c : Char}
    (h : c ∈ (joinWith sep pieces).toList) :
    c ∈ sep.toList ∨ ∃ piece ∈ pieces, c ∈ piece.toList := by
  induction pieces with
  | nil => cases h
  | cons piece rest ih =>
    cases rest with
    | nil => exact .inr ⟨piece, List.mem_cons_self, h⟩
    | cons next rest =>
      rw [joinWith, String.toList_append, String.toList_append, List.mem_append,
        List.mem_append] at h
      rcases h with (h | h) | h
      · exact .inr ⟨piece, List.mem_cons_self, h⟩
      · exact .inl h
      · refine (ih h).imp_right ?_
        rintro ⟨other, hother, hc⟩
        exact ⟨other, List.mem_cons_of_mem _ hother, hc⟩

/-- A piece of a text holds characters of the text. -/
theorem mem_of_mem_split {sep c : Char} {s piece : String} (h : piece ∈ split sep s)
    (hc : c ∈ piece.toList) : c ∈ s.toList := by
  obtain ⟨cs, hcs, rfl⟩ := List.mem_map.1 h
  rw [String.toList_ofList] at hc
  exact (mem_of_mem_splitList hcs hc).1

/-- A piece of a text does not hold the separator. -/
theorem not_mem_of_mem_split {sep : Char} {s piece : String} (h : piece ∈ split sep s) :
    sep ∉ piece.toList := by
  obtain ⟨cs, hcs, rfl⟩ := List.mem_map.1 h
  intro hmem
  rw [String.toList_ofList] at hmem
  exact (mem_of_mem_splitList hcs hmem).2 rfl

/-- What follows a join goes to its last member. -/
theorem joinWith_concat_append (sep : String) (first : List String) (s t : String) :
    joinWith sep (first ++ [s ++ t]) = joinWith sep (first ++ [s]) ++ t := by
  induction first with
  | nil => rfl
  | cons head first ih =>
    cases first with
    | nil => simp [joinWith, String.append_assoc]
    | cons next first =>
      simp only [List.cons_append, joinWith] at ih ⊢
      rw [ih]
      simp only [String.append_assoc]

/-- A text without the separator goes to the last piece. -/
theorem split_append_of_not_mem {sep : Char} (s : String) {t : String} (h : sep ∉ t.toList) :
    split sep (s ++ t) =
      (split sep s).dropLast ++ [(split sep s).getLast (split_ne_nil sep s) ++ t] := by
  have hpieces : ∀ piece ∈ split sep s, sep ∉ piece.toList := fun piece hpiece =>
    not_mem_of_mem_split hpiece
  have hjoin : s = joinWith (String.singleton sep)
      ((split sep s).dropLast ++ [(split sep s).getLast (split_ne_nil sep s)]) := by
    rw [List.dropLast_concat_getLast, joinWith_split]
  have happend : s ++ t = joinWith (String.singleton sep)
      ((split sep s).dropLast ++ [(split sep s).getLast (split_ne_nil sep s) ++ t]) := by
    rw [joinWith_concat_append, ← hjoin]
  rw [happend, split_joinWith (by simp)]
  intro piece hpiece
  rcases List.mem_append.1 hpiece with hpiece | hpiece
  · exact hpieces piece ((List.dropLast_sublist _).subset hpiece)
  · rw [List.mem_singleton.1 hpiece, String.toList_append, List.mem_append, not_or]
    exact ⟨hpieces _ (List.getLast_mem _), h⟩

/-- A text is cut at its last separator in one way only. -/
theorem append_separator_inj {sep : Char} {s t u v : String} (hu : sep ∉ u.toList)
    (hv : sep ∉ v.toList) :
    s ++ String.singleton sep ++ u = t ++ String.singleton sep ++ v ↔ s = t ∧ u = v := by
  have hlast : ∀ {w : String}, sep ∉ w.toList → split sep w = [w] := fun hw => by
    rw [split, splitList_of_not_mem hw, List.map_singleton, String.ofList_toList]
  constructor
  · intro h
    have hsplit := congrArg (split sep) h
    rw [split_append, split_append, hlast hu, hlast hv] at hsplit
    obtain ⟨hst, huv⟩ := List.append_inj' hsplit rfl
    refine ⟨?_, List.singleton_inj.1 huv⟩
    rw [← joinWith_split sep s, hst, joinWith_split]
  · rintro ⟨rfl, rfl⟩
    rfl

/-! ## Starts -/

theorem hasStart_iff {start s : String} : hasStart start s = true ↔ ∃ rest, s = start ++ rest := by
  rw [hasStart, List.isPrefixOf_iff_prefix]
  constructor
  · rintro ⟨rest, hrest⟩
    exact ⟨String.ofList rest, String.toList_inj.1 (by simp [hrest])⟩
  · rintro ⟨rest, rfl⟩
    exact ⟨rest.toList, by simp⟩

/-- A text starts with another and a separator exactly if it has the pieces of the other and then
more. -/
theorem hasStart_iff_split {sep : Char} {s t : String} :
    hasStart (s ++ String.singleton sep) t = true ↔
      ∃ rest, rest ≠ [] ∧ split sep t = split sep s ++ rest := by
  rw [hasStart_iff]
  constructor
  · rintro ⟨rest, rfl⟩
    exact ⟨split sep rest, split_ne_nil sep rest, split_append sep s rest⟩
  · rintro ⟨rest, hne, hsplit⟩
    refine ⟨joinWith (String.singleton sep) rest, ?_⟩
    rw [← joinWith_split sep t, hsplit, joinWith_append _ (split_ne_nil sep s) hne,
      joinWith_split]

/-! ## Searching -/

theorem holdsList_iff {part cs : List Char} : holdsList part cs = true ↔ part <:+: cs := by
  induction cs with
  | nil => rw [holdsList, List.isEmpty_iff, List.infix_nil]
  | cons c cs ih =>
    rw [holdsList, Bool.or_eq_true, List.isPrefixOf_iff_prefix, ih, List.infix_cons_iff]

/-- A text occurs in another exactly if the other is cut into three with the text in the middle. -/
theorem occursIn_iff {part s : String} :
    occursIn part s = true ↔ ∃ before after, s = before ++ part ++ after := by
  rw [occursIn, holdsList_iff]
  constructor
  · rintro ⟨before, after, h⟩
    exact ⟨String.ofList before, String.ofList after, String.toList_inj.1 (by simp [← h])⟩
  · rintro ⟨before, after, rfl⟩
    exact ⟨before.toList, after.toList, by simp⟩

end SampleForge.Text
