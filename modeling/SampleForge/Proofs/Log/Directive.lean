import SampleForge.Log.Directive

/-!
# Directives for a part of the program

A directive `part=level` is what settings make of a module and its level.  Places in a directive are
counted in bytes, and the two parts are cut out at such places.  They come out as they went in
(`takeBytes_append`, `dropBytes_append`), so the directive is the one with that target and the
threshold that the level tells (`parse_part`).  It is refused exactly if the level is not known
(`exists_parse_part_iff`).

This needs a name that holds none of the characters that end a target (`IsPartName`).
-/

namespace SampleForge.Directive

open Text (alphanumericRuns blankRuns inRuns isBlank trimLeft trimRight)

/-! ## Bytes -/

/-- How many bytes characters fill. -/
def byteLength : List Char → Nat
  | [] => 0
  | c :: cs => c.utf8Size + byteLength cs

theorem byteLength_concat (cs : List Char) (c : Char) :
    byteLength (cs ++ [c]) = byteLength cs + c.utf8Size := by
  induction cs with
  | nil => rw [List.nil_append, byteLength, byteLength, byteLength, Nat.zero_add, Nat.add_zero]
  | cons d cs ih => rw [List.cons_append, byteLength, ih, byteLength, Nat.add_assoc]

/-- Taking a first character from the bytes leaves those of the rest. -/
theorem exists_byteLength_cons (c : Char) (cs : List Char) :
    ∃ n, byteLength (c :: cs) = n + 1 ∧ n + 1 - c.utf8Size = byteLength cs := by
  have hpos := c.utf8Size_pos
  refine ⟨c.utf8Size - 1 + byteLength cs, ?_, by omega⟩
  rw [byteLength]
  omega

theorem dropBytes_append (cs ds : List Char) : dropBytes (byteLength cs) (cs ++ ds) = ds := by
  induction cs with
  | nil => cases ds <;> rfl
  | cons c cs ih =>
    obtain ⟨n, hn, hrest⟩ := exists_byteLength_cons c cs
    rw [hn, List.cons_append, dropBytes.eq_3 _ _ _ (Nat.succ_ne_zero n), hrest, ih]

theorem takeBytes_append (cs ds : List Char) : takeBytes (byteLength cs) (cs ++ ds) = cs := by
  induction cs with
  | nil => cases ds <;> rfl
  | cons c cs ih =>
    obtain ⟨n, hn, hrest⟩ := exists_byteLength_cons c cs
    rw [hn, List.cons_append, takeBytes.eq_3 _ _ _ (Nat.succ_ne_zero n), hrest, ih]

theorem cut_append (cs ds : List Char) :
    cut (cs ++ ds) 0 (byteLength cs) = String.ofList cs := by
  rw [cut, dropBytes, Nat.sub_zero, takeBytes_append]

theorem cutFrom_append_cons (cs : List Char) (c : Char) (ds : List Char) :
    cutFrom (cs ++ c :: ds) (byteLength cs + c.utf8Size) = String.ofList ds := by
  rw [cutFrom, List.append_cons, ← byteLength_concat, dropBytes_append]

/-! ## Ends -/

theorem trimLeft_cons {c : Char} (h : isBlank c = false) (cs : List Char) :
    trimLeft (c :: cs) = c :: cs := by
  rw [trimLeft, List.dropWhile_cons_of_neg (by rw [h]; decide)]

/-- Trimming at the end stops at a character that is not blank. -/
theorem trimRight_append_cons {c : Char} (h : isBlank c = false) (cs ds : List Char) :
    trimRight (cs ++ c :: ds) = cs ++ c :: trimRight ds := by
  have hreverse : (cs ++ c :: ds).reverse = ds.reverse ++ c :: cs.reverse := by simp
  rw [trimRight, hreverse, trimLeft, List.dropWhile_append]
  split
  · rename_i hall
    rw [trimRight, trimLeft, List.isEmpty_iff.1 hall,
      List.dropWhile_cons_of_neg (by rw [h]; decide)]
    simp
  · simp [trimRight, trimLeft]

theorem mem_of_mem_trimRight {c : Char} {cs : List Char} (h : c ∈ trimRight cs) : c ∈ cs := by
  rw [trimRight, List.mem_reverse] at h
  exact List.mem_reverse.1 ((List.dropWhile_sublist _).subset h)

/-! ## Names of parts -/

/-- A name of a part of the program. -/
structure IsPartName (part : String) : Prop where
  /-- It starts as directives do. -/
  start : ∃ c cs, part.toList = c :: cs ∧ isStart c = true
  /-- The target goes on to the level. -/
  noEquals : '=' ∉ part.toList
  /-- No span begins in it. -/
  noBracket : '[' ∉ part.toList
  /-- The directive does not end in it. -/
  noComma : ',' ∉ part.toList

/-- The ASCII letters and digits, as runs of code points. -/
def asciiRuns : List (Nat × Nat) := [(0x30, 0x39), (0x41, 0x5A), (0x61, 0x7A)]

theorem inRuns_iff {runs : List (Nat × Nat)} {n : Nat} :
    inRuns runs n = true ↔ ∃ run ∈ runs, run.1 ≤ n ∧ n ≤ run.2 := by
  simp [inRuns, List.any_eq_true]

theorem inRuns_of_isAlphanum {c : Char} (h : c.isAlphanum = true) :
    inRuns asciiRuns c.toNat = true := by
  have hcases : (c.isUpper = true ∨ c.isLower = true) ∨ c.isDigit = true := by
    rw [← Bool.or_eq_true, ← Bool.or_eq_true]
    exact h
  rw [inRuns_iff]
  rcases hcases with (hupper | hlower) | hdigit
  · obtain ⟨hfirst, hlast⟩ := of_decide_eq_true hupper
    exact ⟨(0x41, 0x5A), by decide, hfirst, hlast⟩
  · obtain ⟨hfirst, hlast⟩ := Bool.and_eq_true_iff.1 hlower
    exact ⟨(0x61, 0x7A), by decide, of_decide_eq_true hfirst, of_decide_eq_true hlast⟩
  · obtain ⟨hfirst, hlast⟩ := Bool.and_eq_true_iff.1 hdigit
    exact ⟨(0x30, 0x39), by decide, of_decide_eq_true hfirst, of_decide_eq_true hlast⟩

/-- No letter or digit is blank. -/
theorem blankRuns_apart :
    blankRuns.all (fun blank => (asciiRuns ++ alphanumericRuns).all fun run =>
      run.2 < blank.1 || blank.2 < run.1) = true := by
  decide +kernel

/-- A directive does not start with a blank character. -/
theorem not_isBlank_of_isStart {c : Char} (h : isStart c = true) : isBlank c = false := by
  have hruns {run : Nat × Nat} (hrun : run ∈ asciiRuns ++ alphanumericRuns)
      (hholds : run.1 ≤ c.toNat ∧ c.toNat ≤ run.2) : isBlank c = false := by
    rw [Bool.eq_false_iff]
    intro hblank
    obtain ⟨blank, hmem, hfrom, hto⟩ := inRuns_iff.1 hblank
    have hapart := List.all_eq_true.1 (List.all_eq_true.1 blankRuns_apart blank hmem) run hrun
    simp only [Bool.or_eq_true, decide_eq_true_eq] at hapart
    omega
  simp only [isStart, Bool.or_eq_true, decide_eq_true_eq] at h
  rcases h with (((rfl | rfl) | rfl) | hletter) | hletter
  · decide
  · decide
  · decide
  · obtain ⟨run, hrun, hholds⟩ := inRuns_iff.1 (inRuns_of_isAlphanum hletter)
    exact hruns (List.mem_append_left _ hrun) hholds
  · obtain ⟨run, hrun, hholds⟩ := inRuns_iff.1 hletter
    exact hruns (List.mem_append_right _ hrun) hholds

/-! ## The walk -/

section Walk

variable {whole : List Char} {d : Directive} {i first : Nat}

theorem walk_cons_of_step {state next : State} {e : Directive} {c : Char} {cs : List Char}
    (h : step whole state d i c = .ok (next, e)) :
    walk whole state d i (c :: cs) = walk whole next e (i + c.utf8Size) cs := by
  rw [walk, h]
  rfl

/-- A walk stays in a word up to a character that ends it. -/
theorem walk_word {cs rest : List Char} (hequals : '=' ∉ cs) (hbracket : '[' ∉ cs)
    (hcomma : ',' ∉ cs) :
    walk whole (.word first) d i (cs ++ rest) =
      walk whole (.word first) d (i + byteLength cs) rest := by
  induction cs generalizing i with
  | nil => rfl
  | cons c cs ih =>
    rw [List.mem_cons, not_or] at hequals hbracket hcomma
    have hstep : step whole (.word first) d i c = .ok (.word first, d) := by
      rw [step, if_neg (Ne.symm hequals.1), if_neg (Ne.symm hbracket.1), if_neg (Ne.symm hcomma.1)]
    rw [List.cons_append, walk_cons_of_step hstep, ih hequals.2 hbracket.2 hcomma.2,
      byteLength, Nat.add_assoc]

/-- A walk stays in a level without a comma to the end. -/
theorem walk_level {cs : List Char} (h : ',' ∉ cs) :
    walk whole (.level first) d i cs = d.setLevel (cutFrom whole first) := by
  induction cs generalizing i with
  | nil => rfl
  | cons c cs ih =>
    rw [List.mem_cons, not_or] at h
    have hstep : step whole (.level first) d i c = .ok (.level first, d) := by
      rw [step, if_neg (Ne.symm h.1)]
    rw [walk_cons_of_step hstep, ih h.2]

end Walk

/-- The directive for a part and a level has the part for its target. -/
theorem parse_part {part level : String} (hpart : IsPartName part) (hlevel : ',' ∉ level.toList) :
    parse (part ++ "=" ++ level) = setLevel { target := some part } level := by
  obtain ⟨c, cs, hcs, hstart⟩ := hpart.start
  have hequals := hpart.noEquals
  have hbracket := hpart.noBracket
  have hcomma := hpart.noComma
  rw [hcs, List.mem_cons, not_or] at hequals hbracket hcomma
  have hwhole : (part ++ "=" ++ level).toList = (c :: cs) ++ '=' :: level.toList := by
    simp [hcs]
  -- Blanks at the end are not walked along, but the level is cut out with them.
  have htrimmed : trimRight (trimLeft ((c :: cs) ++ '=' :: level.toList)) =
      c :: (cs ++ '=' :: trimRight level.toList) := by
    rw [List.cons_append, trimLeft_cons (not_isBlank_of_isStart hstart), ← List.cons_append,
      trimRight_append_cons (by decide), List.cons_append]
  have hbegin : step ((c :: cs) ++ '=' :: level.toList) .start {} 0 c = .ok (.word 0, {}) := by
    rw [step, if_neg (Ne.symm hbracket.1), if_pos hstart]
  have hend : 0 + c.utf8Size + byteLength cs = byteLength (c :: cs) := by
    rw [byteLength, Nat.zero_add]
  have htarget : step ((c :: cs) ++ '=' :: level.toList) (.word 0) {} (byteLength (c :: cs)) '=' =
      .ok (.level (byteLength (c :: cs) + '='.utf8Size), { target := some part }) := by
    rw [step, if_pos rfl, cut_append, ← hcs, String.ofList_toList]
    rfl
  rw [parse, hwhole, htrimmed, walk_cons_of_step hbegin,
    walk_word hequals.2 hbracket.2 hcomma.2, hend, walk_cons_of_step htarget,
    walk_level fun hmem => hlevel (mem_of_mem_trimRight hmem), cutFrom_append_cons,
    String.ofList_toList]

/-- A level is known by a name or a number, or by being left out. -/
def IsKnownLevel (level : String) : Prop := level = "" ∨ (Threshold.parse? level).isSome = true

instance (level : String) : Decidable (IsKnownLevel level) := inferInstanceAs (Decidable (_ ∨ _))

theorem setLevel_of_isKnownLevel {level : String} (h : IsKnownLevel level) (d : Directive) :
    ∃ e, d.setLevel level = .ok e := by
  rw [setLevel]
  split
  · exact ⟨_, rfl⟩
  · rename_i hne
    obtain ⟨threshold, hthreshold⟩ := Option.isSome_iff_exists.1 (h.resolve_left hne)
    exact ⟨_, by rw [hthreshold]⟩

theorem setLevel_of_not_isKnownLevel {level : String} (h : ¬IsKnownLevel level) (d : Directive) :
    d.setLevel level = .error .unknownLevel := by
  obtain ⟨hne, hunknown⟩ := not_or.1 h
  rw [setLevel, if_neg hne, Option.not_isSome_iff_eq_none.1 hunknown]

/-- The directive for a part and a level is refused exactly if the level is not known. -/
theorem exists_parse_part_iff {part level : String} (hpart : IsPartName part)
    (hlevel : ',' ∉ level.toList) :
    (∃ d, parse (part ++ "=" ++ level) = .ok d) ↔ IsKnownLevel level := by
  rw [parse_part hpart hlevel]
  by_cases h : IsKnownLevel level
  · exact iff_of_true (setLevel_of_isKnownLevel h _) h
  · rw [setLevel_of_not_isKnownLevel h]
    refine iff_of_false ?_ h
    rintro ⟨d, ⟨⟩⟩

end SampleForge.Directive
