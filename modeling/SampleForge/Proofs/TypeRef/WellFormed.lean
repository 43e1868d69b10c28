import SampleForge.Proofs.Outcome
import SampleForge.Proofs.Text.Pieces
import SampleForge.TypeRef.Json

/-!
# Well-formed references

An identity is one or more segments between dots, each with a character in it and none that is
blank (`IsIdentity`).  `checkIdentity` accepts exactly these.

A reference is well formed when every leaf has such an identity, and every collection has either
the derived one or such an identity that is not that of its element.  A derived identity holds a
blank, so it is never one of the first sort (`not_isIdentity_derivedIdentity`).

Whatever can be obtained is well formed (`Obtainable.wellFormed`): a named leaf, the collection of
something obtained, and everything that is read from its wire form.
-/

namespace SampleForge.TypeRef

open Json (Access Fault Value)
open Text (isBlank split splitList)
open Outcome

/-! ## Identities -/

/-- An identity made of segments. -/
def IsIdentity (identity : String) : Prop := ∀ s ∈ split '.' identity, isSegment s = true

instance (identity : String) : Decidable (IsIdentity identity) :=
  inferInstanceAs (Decidable (∀ s ∈ split '.' identity, isSegment s = true))

/-- No character of an identity is blank. -/
theorem IsIdentity.not_isBlank {identity : String} (h : IsIdentity identity) {c : Char}
    (hc : c ∈ identity.toList) : isBlank c = false := by
  by_cases hdot : c = '.'
  · subst hdot
    decide
  · obtain ⟨piece, hpiece, hmem⟩ := Text.exists_mem_splitList hc hdot
    have hseg := h (String.ofList piece) (List.mem_map_of_mem hpiece)
    simp only [isSegment, String.toList_ofList, Bool.and_eq_true, Bool.not_eq_true',
      List.any_eq_false] at hseg
    simpa using hseg.2 c hmem

theorem IsIdentity.ne_empty {identity : String} (h : IsIdentity identity) : identity ≠ "" := by
  rintro rfl
  exact absurd h (by decide)

theorem checkIdentity_eq_ok {identity : String} :
    checkIdentity identity = .ok () ↔ IsIdentity identity := by
  constructor
  · intro h
    simp only [checkIdentity] at h
    split at h
    · cases h
    · split at h
      · rename_i hall
        exact List.all_eq_true.1 hall
      · cases h
  · intro h
    have hall : (split '.' identity).all isSegment = true := List.all_eq_true.2 h
    have hblank : ¬ identity.toList.all isBlank = true := by
      intro hb
      have hnil : identity.toList = [] := by
        apply List.eq_nil_iff_forall_not_mem.2
        intro c hc
        have h1 := List.all_eq_true.1 hb c hc
        rw [h.not_isBlank hc] at h1
        cases h1
      exact h.ne_empty (String.toList_inj.1 hnil)
    rw [checkIdentity, if_neg hblank, if_pos hall]

/-- A derived identity is refused for the blank in it. -/
theorem not_isIdentity_derivedIdentity (element : TypeRef) :
    ¬ IsIdentity (derivedIdentity element) := by
  intro h
  have hblank := h.not_isBlank (c := ' ') (by simp [derivedIdentity, derivedStart])
  exact absurd hblank (by decide)

theorem checkIdentity_derivedIdentity (element : TypeRef) :
    checkIdentity (derivedIdentity element) =
      .error (.malformedIdentity (derivedIdentity element)) := by
  have hr : ¬ (derivedIdentity element).toList.all isBlank = true := by
    intro hb
    have h1 := List.all_eq_true.1 hb 'r' (by simp [derivedIdentity, derivedStart])
    exact absurd h1 (by decide)
  have hall : ¬ (split '.' (derivedIdentity element)).all isSegment = true := fun ha =>
    not_isIdentity_derivedIdentity element (List.all_eq_true.1 ha)
  rw [checkIdentity, if_neg hr, if_neg hall]

theorem derivedIdentity_ne_empty (element : TypeRef) : derivedIdentity element ≠ "" := by
  intro h
  have := congrArg String.length h
  simp [derivedIdentity, derivedStart] at this

/-! ## Parts that make a reference -/

theorem named_eq_ok {kind : LeafKind} {identity : String} {t : TypeRef} :
    named kind identity = .ok t ↔ IsIdentity identity ∧ t = .leaf kind identity := by
  rw [named, check_bind_eq_ok, checkIdentity_eq_ok, pure_eq, Except.ok.injEq, eq_comm (b := t)]

theorem collectionNamed_eq_ok {identity : String} {element t : TypeRef} :
    collectionNamed identity element = .ok t ↔
      identity = "" ∧ t = collectionOf element ∨
        IsIdentity identity ∧ identity ≠ element.identity ∧ t = .collection identity element := by
  by_cases hempty : identity = ""
  · subst hempty
    have hnot : ¬ IsIdentity "" := fun h => h.ne_empty rfl
    rw [collectionNamed, if_pos rfl, Except.ok.injEq, eq_comm]
    simp [hnot]
  · rw [collectionNamed, if_neg hempty, check_bind_eq_ok, checkIdentity_eq_ok]
    by_cases hshadow : element.identity = identity
    · simp [hshadow, hempty]
    · rw [if_neg hshadow, pure_eq, Except.ok.injEq, eq_comm (b := t)]
      simp [hempty, Ne.symm hshadow]

theorem finish_eq_ok_iff {absent : String → Fault} {length : Except Fault Unit} {draft : Draft}
    {t : TypeRef} :
    draft.finish absent length = .ok t ↔
      ∃ kind, draft.kind = some kind ∧ length = .ok () ∧
        ofParts draft.identity kind draft.element = .ok t := by
  rw [Draft.finish]
  cases hkind : draft.kind with
  | none => simp [Json.require]
  | some kind =>
    rw [Json.require, bind_ok, check_bind_eq_ok]
    cases hparts : ofParts draft.identity kind draft.element with
    | error e => simp [hparts]
    | ok t' => simp [hparts]

/-! ## Well-formed references -/

/-- Every leaf has an identity made of segments, and every collection has one as well, other than
that of its element, or the derived one. -/
def WellFormed : TypeRef → Prop
  | .leaf _ identity => IsIdentity identity
  | .collection identity element =>
      element.WellFormed ∧
        (identity = derivedIdentity element ∨ IsIdentity identity ∧ identity ≠ element.identity)

theorem wellFormed_of_named {kind : LeafKind} {identity : String} {t : TypeRef}
    (h : named kind identity = .ok t) : t.WellFormed := by
  obtain ⟨hidentity, rfl⟩ := named_eq_ok.1 h
  exact hidentity

theorem wellFormed_collectionOf {element : TypeRef} (h : element.WellFormed) :
    (collectionOf element).WellFormed :=
  ⟨h, .inl rfl⟩

theorem wellFormed_of_collectionNamed {identity : String} {element t : TypeRef}
    (he : element.WellFormed) (h : collectionNamed identity element = .ok t) : t.WellFormed := by
  obtain ⟨-, rfl⟩ | ⟨hidentity, hne, rfl⟩ := collectionNamed_eq_ok.1 h
  · exact wellFormed_collectionOf he
  · exact ⟨he, .inr ⟨hidentity, hne⟩⟩

/-- Parts that make a reference make a well-formed one. -/
theorem wellFormed_of_ofParts {identity : String} {kind : TypeKind} {element : Option TypeRef}
    {t : TypeRef} (he : ∀ e ∈ element, e.WellFormed) (h : ofParts identity kind element = .ok t) :
    t.WellFormed := by
  match kind, element with
  | .collection, some element => exact wellFormed_of_collectionNamed (he element rfl) h
  | .collection, none => cases h
  | .leaf _, some _ => cases h
  | .leaf _, none => exact wellFormed_of_named h

/-! ## Reading -/

/-- Whether the element of a draft, if there is one, is well formed. -/
def Draft.Sound (draft : Draft) : Prop := ∀ e ∈ draft.element, e.WellFormed

theorem Draft.sound_empty : Draft.Sound {} := by
  intro e he
  cases he

theorem Draft.element_of_set {access : Access} {draft draft' : Draft} {field : String} {v : Value}
    (h : draft.set access field v = .ok draft') : draft'.element = draft.element := by
  simp only [Draft.set] at h
  split at h
  · obtain ⟨_, _, h⟩ := bind_eq_ok.1 h
    cases h
    rfl
  · split at h
    · obtain ⟨_, _, h⟩ := bind_eq_ok.1 h
      cases h
      rfl
    · cases h
      rfl

theorem wellFormed_of_finish {absent : String → Fault} {length : Except Fault Unit}
    {draft : Draft} {t : TypeRef} (hd : draft.Sound) (h : draft.finish absent length = .ok t) :
    t.WellFormed := by
  obtain ⟨kind, -, -, hparts⟩ := finish_eq_ok_iff.1 h
  exact wellFormed_of_ofParts hd hparts

/-- Takes in one part of a record, the element or another. -/
def readMember (access : Access) (draft : Draft) (field : String) (v : Value) :
    Except Fault Draft :=
  if field = "element" then
    if v.isNull then pure { draft with element := none }
    else (read access v).map fun element => { draft with element := some element }
  else draft.set access field v

theorem readFields_cons (access : Access) (draft : Draft) (field : String) (v : Value)
    (rest : List (String × Value)) :
    readFields access draft ((field, v) :: rest) =
      (readMember access draft field v >>= fun draft => readFields access draft rest) := by
  simp only [readFields, readMember]
  split
  · split
    · rfl
    · rfl
  · rfl

theorem readItems_cons_some (access : Access) (draft : Draft) (field : String)
    (fields : List String) (v : Value) (rest : List Value) :
    readItems access draft (field :: fields) (v :: rest) =
      (readMember access draft field v >>= fun draft => readItems access draft fields rest) := by
  simp only [readItems, readMember, List.head?_cons, List.tail_cons]
  split
  · split
    · rfl
    · rfl
  · rfl

theorem readItems_cons_none (access : Access) (draft : Draft) (v : Value) (rest : List Value) :
    readItems access draft [] (v :: rest) = readItems access draft [] rest := rfl

/-- One part keeps a draft sound, given that it reads as a well-formed reference if it reads as a
reference. -/
theorem Draft.Sound.readMember {access : Access} {draft draft' : Draft} {field : String} {v : Value}
    (hv : ∀ {t : TypeRef}, read access v = .ok t → t.WellFormed) (hd : draft.Sound)
    (h : readMember access draft field v = .ok draft') : draft'.Sound := by
  simp only [TypeRef.readMember] at h
  split at h
  · split at h
    · cases h
      intro e he
      cases he
    · obtain ⟨element, hread, rfl⟩ := map_eq_ok.1 h
      intro e he
      cases he
      exact hv hread
  · intro e he
    rw [Draft.element_of_set h] at he
    exact hd e he

mutual

/-- A value reads as a well-formed reference or not at all. -/
theorem wellFormed_of_read {access : Access} : ∀ {v : Value} {t : TypeRef},
    read access v = .ok t → t.WellFormed
  | .object fields, _, h => by
      rw [read] at h
      obtain ⟨draft, hfields, h⟩ := bind_eq_ok.1 h
      exact wellFormed_of_finish (Draft.Sound.readFields fields Draft.sound_empty hfields) h
  | .list items, _, h => by
      rw [read] at h
      obtain ⟨draft, hitems, h⟩ := bind_eq_ok.1 h
      exact wellFormed_of_finish (Draft.Sound.readItems items Draft.sound_empty hitems) h
  | .null, _, h => by cases h
  | .bool _, _, h => by cases h
  | .int _, _, h => by cases h
  | .real _, _, h => by cases h
  | .text _, _, h => by cases h

theorem Draft.Sound.readFields {access : Access} : ∀ (fields : List (String × Value))
    {draft draft' : Draft}, draft.Sound → TypeRef.readFields access draft fields = .ok draft' →
    draft'.Sound
  | [], _, _, hd, h => by
      cases h
      exact hd
  | (_, v) :: rest, _, _, hd, h => by
      rw [readFields_cons] at h
      obtain ⟨_, hmember, h⟩ := bind_eq_ok.1 h
      exact Draft.Sound.readFields rest (hd.readMember wellFormed_of_read hmember) h

theorem Draft.Sound.readItems {access : Access} : ∀ (items : List Value) {draft draft' : Draft}
    {fields : List String}, draft.Sound →
    TypeRef.readItems access draft fields items = .ok draft' → draft'.Sound
  | [], _, _, _, hd, h => by
      cases h
      exact hd
  | v :: rest, _, _, [], hd, h => by
      rw [readItems_cons_none] at h
      exact Draft.Sound.readItems rest hd h
  | v :: rest, _, _, field :: fields, hd, h => by
      rw [readItems_cons_some] at h
      obtain ⟨_, hmember, h⟩ := bind_eq_ok.1 h
      exact Draft.Sound.readItems rest (hd.readMember wellFormed_of_read hmember) h

end

/-! ## What can be obtained -/

/-- The references that can be obtained: a leaf with a checked identity, the collection of a
reference, and whatever is read. -/
inductive Obtainable : TypeRef → Prop where
  | named {kind : LeafKind} {identity : String} {t : TypeRef} :
      named kind identity = .ok t → Obtainable t
  | collectionOf {element : TypeRef} : Obtainable element → Obtainable (collectionOf element)
  | read {access : Access} {v : Value} {t : TypeRef} : read access v = .ok t → Obtainable t

/-- Whatever can be obtained is well formed. -/
theorem Obtainable.wellFormed {t : TypeRef} (h : Obtainable t) : t.WellFormed := by
  induction h with
  | named h => exact wellFormed_of_named h
  | collectionOf _ ih => exact wellFormed_collectionOf ih
  | read h => exact wellFormed_of_read h

end SampleForge.TypeRef
