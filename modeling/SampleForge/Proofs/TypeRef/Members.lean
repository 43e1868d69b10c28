import SampleForge.Proofs.KeyMap
import SampleForge.Proofs.TypeRef.WellFormed

/-!
# Reading a reference by its members

A reference is read from the members of an object, or from those of a list by their places, and the
reader takes them in one after the other.  Where no member is given twice, each part of the draft
comes from the member under its own name (`Takes`), whatever the order and whatever else is there.
So a value is read exactly if its members are taken in and then make a reference
(`read_eq_ok_iff_takes`).
-/

namespace SampleForge.TypeRef

open Json (Access Fault Layout Value)
open Outcome

/-! ## One part -/

/-- What a part is after the value at its place was read, if there is one. -/
def Took {α : Type} (read : Value → Except Fault α) (before after : α) : Option Value → Prop
  | some v => read v = .ok after
  | none => after = before

/-- The first member of a list that names each member once, and then the others. -/
theorem took_cons_iff {α : Type} {read : Value → Except Fault α} {before after : α}
    {name field : String} {v : Value} {rest : List (String × Value)}
    (hfield : field ∉ rest.map (·.1)) :
    Took read before after (findPair? name ((field, v) :: rest)) ↔
      ∃ middle, Took read before middle (findPair? name [(field, v)]) ∧
        Took read middle after (findPair? name rest) := by
  rw [findPair?, findPair?]
  by_cases hname : name = field
  · subst hname
    have hnone : findPair? name rest = none := by
      rw [Option.eq_none_iff_forall_ne_some]
      intro u hu
      exact hfield (List.mem_map_of_mem (mem_of_findPair? hu))
    simp [Took, hnone]
  · simp [Took, hname, findPair?]

/-- Reads a kind. -/
def readKind (access : Access) (v : Value) : Except Fault (Option TypeKind) :=
  (Json.readVariant access kindWords v).map some

/-- Reads an element, or null in its absence. -/
def readElement (access : Access) (v : Value) : Except Fault (Option TypeRef) :=
  Json.readOptional (read access) v

theorem took_text_iff {text : String} {found : Option Value} :
    Took Json.readText "" text found ↔ found.getD (.text "") = .text text := by
  cases found with
  | none => simp [Took, eq_comm]
  | some u =>
    cases u with
    | text s => simp [Took, Json.readText]
    | _ => simp [Took, Json.readText]

theorem took_kind_iff {access : Access} {kind : TypeKind} {found : Option Value} :
    Took (readKind access) none (some kind) found ↔
      ∃ u, found = some u ∧ Json.readVariant access kindWords u = .ok kind := by
  cases found with
  | none => simp [Took]
  | some u => simp [Took, readKind, map_eq_ok]

theorem readElement_eq_ok_iff {access : Access} {v : Value} {element : Option TypeRef} :
    readElement access v = .ok element ↔
      v = .null ∧ element = none ∨ ∃ t, read access v = .ok t ∧ element = some t := by
  cases v with
  | null => simp [readElement, Json.readOptional, read, eq_comm]
  | _ => simp [readElement, Json.readOptional, map_eq_ok, eq_comm (a := element)]

/-- The element is null or left out, or it is a reference of its own. -/
theorem took_element_iff {access : Access} {found : Option Value} {element : Option TypeRef} :
    Took (readElement access) none element found ↔
      found.getD .null = .null ∧ element = none ∨
        ∃ u t, found = some u ∧ read access u = .ok t ∧ element = some t := by
  cases found with
  | none => simp [Took]
  | some u => simp [Took, readElement_eq_ok_iff]

/-! ## All members -/

/-- A draft after it took in members. -/
structure Takes (access : Access) (before after : Draft) (members : List (String × Value)) :
    Prop where
  identity : Took Json.readText before.identity after.identity (findPair? "identity" members)
  kind : Took (readKind access) before.kind after.kind (findPair? "kind" members)
  element : Took (readElement access) before.element after.element (findPair? "element" members)

/-- Members that are no parts leave a draft as it is. -/
theorem takes_iff_eq {access : Access} {before after : Draft} {members : List (String × Value)}
    (h : ∀ name ∈ shape.fields, findPair? name members = none) :
    Takes access before after members ↔ before = after := by
  have hidentity : findPair? "identity" members = none := h _ (by decide)
  have hkind : findPair? "kind" members = none := h _ (by decide)
  have helement : findPair? "element" members = none := h _ (by decide)
  constructor
  · rintro ⟨hi, hk, he⟩
    rw [hidentity] at hi
    rw [hkind] at hk
    rw [helement] at he
    cases before
    cases after
    cases hi
    cases hk
    cases he
    rfl
  · rintro rfl
    refine ⟨?_, ?_, ?_⟩
    · rw [hidentity]
      rfl
    · rw [hkind]
      rfl
    · rw [helement]
      rfl

theorem readMember_at_identity (access : Access) (draft : Draft) (v : Value) :
    readMember access draft "identity" v =
      (Json.readText v).map fun identity => { draft with identity } := by
  rw [readMember, if_neg (by decide), Draft.set, if_pos rfl]
  cases Json.readText v with
  | error e => rfl
  | ok identity => rfl

theorem readMember_at_kind (access : Access) (draft : Draft) (v : Value) :
    readMember access draft "kind" v =
      (readKind access v).map fun kind => { draft with kind } := by
  rw [readMember, if_neg (by decide), Draft.set, if_neg (by decide), if_pos rfl, readKind]
  cases Json.readVariant access kindWords v with
  | error e => rfl
  | ok kind => rfl

theorem readMember_at_element (access : Access) (draft : Draft) (v : Value) :
    readMember access draft "element" v =
      (readElement access v).map fun element => { draft with element } := by
  rw [readMember, if_pos rfl, readElement]
  cases v with
  | null => rfl
  | _ => exact (if_neg Bool.false_ne_true).trans (map_map _ _ _).symm

theorem readMember_elsewhere (access : Access) (draft : Draft) {field : String} (v : Value)
    (hidentity : field ≠ "identity") (hkind : field ≠ "kind") (helement : field ≠ "element") :
    readMember access draft field v = .ok draft := by
  rw [readMember, if_neg helement, Draft.set, if_neg hidentity, if_neg hkind]
  rfl

theorem readMember_eq_ok_iff {access : Access} {draft draft' : Draft} {field : String}
    {v : Value} :
    readMember access draft field v = .ok draft' ↔ Takes access draft draft' [(field, v)] := by
  obtain ⟨identity, kind, element⟩ := draft
  obtain ⟨identity', kind', element'⟩ := draft'
  by_cases hidentity : field = "identity"
  · subst hidentity
    rw [readMember_at_identity, map_eq_ok]
    constructor
    · rintro ⟨_, h, ⟨⟩⟩
      exact ⟨h, rfl, rfl⟩
    · rintro ⟨h, ⟨⟩, ⟨⟩⟩
      exact ⟨_, h, rfl⟩
  by_cases hkind : field = "kind"
  · subst hkind
    rw [readMember_at_kind, map_eq_ok]
    constructor
    · rintro ⟨_, h, ⟨⟩⟩
      exact ⟨rfl, h, rfl⟩
    · rintro ⟨⟨⟩, h, ⟨⟩⟩
      exact ⟨_, h, rfl⟩
  by_cases helement : field = "element"
  · subst helement
    rw [readMember_at_element, map_eq_ok]
    constructor
    · rintro ⟨_, h, ⟨⟩⟩
      exact ⟨rfl, rfl, h⟩
    · rintro ⟨⟨⟩, ⟨⟩, h⟩
      exact ⟨_, h, rfl⟩
  · rw [readMember_elsewhere access _ v hidentity hkind helement, Except.ok.injEq, takes_iff_eq]
    intro name hname
    have hne : name ≠ field := by
      rintro rfl
      simp [shape, hidentity, hkind, helement] at hname
    rw [findPair?, if_neg hne, findPair?]

/-- Members are taken in one after the other, if none is given twice. -/
theorem foldlM_readMember_eq_ok_iff {access : Access} {draft draft' : Draft}
    {members : List (String × Value)} (h : (members.map (·.1)).Nodup) :
    members.foldlM (fun draft member => readMember access draft member.1 member.2) draft =
      .ok draft' ↔ Takes access draft draft' members := by
  induction members generalizing draft with
  | nil =>
    rw [List.foldlM_nil, pure_eq, Except.ok.injEq, takes_iff_eq fun _ _ => rfl]
  | cons member rest ih =>
    obtain ⟨field, v⟩ := member
    obtain ⟨hfield, hrest⟩ := List.nodup_cons.1 h
    simp only [List.foldlM_cons, bind_eq_ok, readMember_eq_ok_iff, ih hrest]
    constructor
    · rintro ⟨middle, hfirst, hothers⟩
      exact ⟨(took_cons_iff hfield).2 ⟨_, hfirst.identity, hothers.identity⟩,
        (took_cons_iff hfield).2 ⟨_, hfirst.kind, hothers.kind⟩,
        (took_cons_iff hfield).2 ⟨_, hfirst.element, hothers.element⟩⟩
    · rintro ⟨hidentity, hkind, helement⟩
      obtain ⟨identity, hidentity, hidentity'⟩ := (took_cons_iff hfield).1 hidentity
      obtain ⟨kind, hkind, hkind'⟩ := (took_cons_iff hfield).1 hkind
      obtain ⟨element, helement, helement'⟩ := (took_cons_iff hfield).1 helement
      exact ⟨{ identity, kind, element }, ⟨hidentity, hkind, helement⟩,
        ⟨hidentity', hkind', helement'⟩⟩

theorem readFields_eq (access : Access) (draft : Draft) (fields : List (String × Value)) :
    readFields access draft fields =
      fields.foldlM (fun draft member => readMember access draft member.1 member.2) draft := by
  induction fields generalizing draft with
  | nil => rfl
  | cons field rest ih =>
    rw [readFields_cons, List.foldlM_cons]
    simp only [ih]

theorem readItems_eq (access : Access) (draft : Draft) (fields : List String) (items : List Value) :
    readItems access draft fields items =
      (fields.zip items).foldlM (fun draft member => readMember access draft member.1 member.2)
        draft := by
  induction items generalizing draft fields with
  | nil => simp [readItems]
  | cons v rest ih =>
    cases fields with
    | nil => rw [readItems_cons_none, ih]; simp
    | cons field fields =>
      rw [readItems_cons_some, List.zip_cons_cons, List.foldlM_cons]
      simp only [ih]

/-! ## The whole value -/

/-- A value is read by its members, which are then put together. -/
theorem read_eq {access : Access} {v : Value} {members : List (String × Value)} {layout : Layout}
    (h : shape.members v = .ok (members, layout)) :
    read access v =
      (members.foldlM (fun draft member => readMember access draft member.1 member.2) {} >>=
        Draft.finish (shape.absent layout) (shape.checkLength access v)) := by
  cases v with
  | object fields =>
    cases h
    rw [read, readFields_eq]
    rfl
  | list items =>
    cases h
    rw [read, readItems_eq]
  | _ => cases h

/-- A value is read if its members are taken in and then make a reference. -/
theorem read_eq_ok_iff_takes {access : Access} {v : Value} {members : List (String × Value)}
    {layout : Layout} (h : shape.members v = .ok (members, layout))
    (honce : (members.map (·.1)).Nodup) {t : TypeRef} :
    read access v = .ok t ↔
      ∃ draft, Takes access {} draft members ∧
        ∃ kind, draft.kind = some kind ∧ shape.checkLength access v = .ok () ∧
          ofParts draft.identity kind draft.element = .ok t := by
  simp only [read_eq h, bind_eq_ok, foldlM_readMember_eq_ok_iff honce, finish_eq_ok_iff]

end SampleForge.TypeRef
