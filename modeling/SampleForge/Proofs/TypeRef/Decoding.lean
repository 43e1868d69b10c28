import SampleForge.Proofs.Json.Reader
import SampleForge.Proofs.TypeRef.Chain
import SampleForge.Proofs.TypeRef.Members
import SampleForge.Proofs.TypeRef.WireForm

/-!
# What can be decoded

A reference has an element exactly if it is a collection.  A wire form may say anything: a `Wire` is
a kind and an identity at each level, with or without an element, and an identity that is left out
is empty.  `Wire.Denotes` gives the reference that such a form stands for, if there is one, without
a look at the reader.

`Says` relates JSON values to what they say, as objects or as lists and with whatever other members.
A value that says something is read as the reference that this denotes, and refused if it denotes
none (`Says.read_eq_ok_iff`).  A value that says nothing is refused as well (`exists_says`).

So the references that can be decoded are the well-formed ones, and those that can be built are the
well-formed ones with derived identities (`decodable_iff_wellFormed`).
-/

namespace SampleForge.TypeRef

open Json (Access Fault Layout Value)
open Outcome

/-! ## Wire forms -/

/-- The levels of a wire form, with an element or without one. -/
inductive Wire where
  | bare (kind : TypeKind) (identity : String)
  | around (kind : TypeKind) (identity : String) (element : Wire)

namespace Wire

/-- The reference that a wire form stands for. -/
inductive Denotes : Wire → TypeRef → Prop where
  /-- A type without an element. -/
  | leaf {kind : LeafKind} {identity : String} (hidentity : IsIdentity identity) :
      Denotes (.bare (.leaf kind) identity) (.leaf kind identity)
  /-- A collection whose identity is left out. -/
  | derived {w : Wire} {element : TypeRef} (helement : w.Denotes element) :
      Denotes (.around .collection "" w) (collectionOf element)
  /-- A collection with an identity of its own. -/
  | own {identity : String} {w : Wire} {element : TypeRef} (helement : w.Denotes element)
      (hidentity : IsIdentity identity) (hne : identity ≠ element.identity) :
      Denotes (.around .collection identity w) (.collection identity element)

/-- The JSON form with all members. -/
def toJson : Wire → Value
  | .bare kind identity => .object [("identity", .text identity), ("kind", .text kind.word)]
  | .around kind identity element =>
      .object [("element", element.toJson), ("identity", .text identity), ("kind", .text kind.word)]

theorem denotes_bare_iff {kind : TypeKind} {identity : String} {t : TypeRef} :
    (bare kind identity).Denotes t ↔ ofParts identity kind none = .ok t := by
  cases kind with
  | leaf kind =>
    rw [ofParts, named_eq_ok]
    constructor
    · rintro ⟨hidentity⟩
      exact ⟨hidentity, rfl⟩
    · rintro ⟨hidentity, rfl⟩
      exact .leaf hidentity
  | collection =>
    constructor
    · rintro ⟨⟩
    · rintro ⟨⟩

theorem denotes_around_iff {kind : TypeKind} {identity : String} {w : Wire} {t : TypeRef} :
    (around kind identity w).Denotes t ↔
      ∃ element, w.Denotes element ∧ ofParts identity kind (some element) = .ok t := by
  cases kind with
  | leaf kind =>
    constructor
    · rintro ⟨⟩
    · rintro ⟨_, _, ⟨⟩⟩
  | collection =>
    simp only [ofParts, collectionNamed_eq_ok]
    constructor
    · intro h
      cases h with
      | derived helement => exact ⟨_, helement, .inl ⟨rfl, rfl⟩⟩
      | own helement hidentity hne => exact ⟨_, helement, .inr ⟨hidentity, hne, rfl⟩⟩
    · rintro ⟨element, helement, ⟨rfl, rfl⟩ | ⟨hidentity, hne, rfl⟩⟩
      · exact .derived helement
      · exact .own helement hidentity hne

end Wire

/-! ## What a value says -/

/-- A value with these members, which give the kind and the identity. -/
structure Presents (access : Access) (v : Value) (members : List (String × Value))
    (kind : TypeKind) (identity : String) : Prop where
  /-- The value is an object or a list with these members. -/
  layout : ∃ layout, shape.members v = .ok (members, layout)
  /-- A list has no more members than a reference has parts. -/
  length : shape.checkLength access v = .ok ()
  /-- No part is given twice. -/
  once : (members.map (·.1)).Nodup
  /-- The identity is a text, or left out. -/
  identity : (findPair? "identity" members).getD (.text "") = .text identity
  /-- The kind is there. -/
  kind : ∃ u, findPair? "kind" members = some u ∧ Json.readVariant access kindWords u = .ok kind

/-- A value that says a wire form. -/
inductive Says (access : Access) : Value → Wire → Prop where
  /-- The element is null or left out. -/
  | bare {v : Value} {members : List (String × Value)} {kind : TypeKind} {identity : String}
      (hparts : Presents access v members kind identity)
      (helement : (findPair? "element" members).getD .null = .null) :
      Says access v (.bare kind identity)
  /-- The element says a wire form of its own. -/
  | around {v u : Value} {members : List (String × Value)} {kind : TypeKind} {identity : String}
      {w : Wire} (hparts : Presents access v members kind identity)
      (helement : findPair? "element" members = some u) (hu : Says access u w) :
      Says access v (.around kind identity w)

namespace Presents

variable {access : Access} {v : Value} {members : List (String × Value)} {kind : TypeKind}
  {identity : String}

/-- What remains to be read is the element. -/
theorem read_eq_ok_iff (h : Presents access v members kind identity) {t : TypeRef} :
    read access v = .ok t ↔
      ∃ element, Took (readElement access) none element (findPair? "element" members) ∧
        ofParts identity kind element = .ok t := by
  obtain ⟨layout, hlayout⟩ := h.layout
  rw [read_eq_ok_iff_takes hlayout h.once]
  constructor
  · rintro ⟨draft, htakes, kind', hkind', -, hparts⟩
    have hidentity := (took_text_iff.1 htakes.identity).symm.trans h.identity
    obtain ⟨u, hu, hkind⟩ := took_kind_iff.1 (hkind' ▸ htakes.kind)
    obtain ⟨u', hu', hkind'⟩ := h.kind
    rw [hu] at hu'
    cases hu'
    rw [hkind] at hkind'
    cases hkind'
    rw [Value.text.inj hidentity] at hparts
    exact ⟨draft.element, htakes.element, hparts⟩
  · rintro ⟨element, helement, hparts⟩
    refine ⟨{ identity, kind := some kind, element }, ?_, kind, rfl, h.length, hparts⟩
    exact ⟨took_text_iff.2 h.identity, took_kind_iff.2 h.kind, helement⟩

theorem ne_null (h : Presents access v members kind identity) : v ≠ .null := by
  rintro rfl
  obtain ⟨layout, hlayout⟩ := h.layout
  cases hlayout

end Presents

/-! ## Values and what they say -/

theorem Says.ne_null {access : Access} {v : Value} {w : Wire} (h : Says access v w) :
    v ≠ .null := by
  cases h with
  | bare hparts _ => exact hparts.ne_null
  | around hparts _ _ => exact hparts.ne_null

/-- A value is read as what it says denotes. -/
theorem Says.read_eq_ok_iff {access : Access} {v : Value} {w : Wire} (h : Says access v w)
    {t : TypeRef} : read access v = .ok t ↔ w.Denotes t := by
  induction h generalizing t with
  | bare hparts helement =>
    rw [hparts.read_eq_ok_iff, Wire.denotes_bare_iff]
    constructor
    · rintro ⟨element, htook, hparts⟩
      obtain ⟨-, rfl⟩ | ⟨u, e, hfound, hread, -⟩ := took_element_iff.1 htook
      · exact hparts
      · rw [hfound] at helement
        cases helement
        cases hread
    · intro hparts
      exact ⟨none, took_element_iff.2 (.inl ⟨helement, rfl⟩), hparts⟩
  | around hparts helement hu ih =>
    rw [hparts.read_eq_ok_iff, Wire.denotes_around_iff, helement]
    simp only [← ih]
    constructor
    · rintro ⟨element, htook, hparts⟩
      obtain ⟨hnull, -⟩ | ⟨_, e, ⟨⟩, hread, rfl⟩ := took_element_iff.1 htook
      · exact absurd hnull hu.ne_null
      · exact ⟨e, hread, hparts⟩
    · rintro ⟨e, hread, hparts⟩
      exact ⟨some e, took_element_iff.2 (.inr ⟨_, e, rfl, hread, rfl⟩), hparts⟩

/-- A value that is read says something, if the members that are read as references do. -/
theorem exists_says_of_members {access : Access} {v : Value} {members : List (String × Value)}
    {layout : Layout} (hlayout : shape.members v = .ok (members, layout))
    (honce : (members.map (·.1)).Nodup)
    (hmembers : ∀ member ∈ members, ∀ t, read access member.2 = .ok t →
      ∃ w, Says access member.2 w) {t : TypeRef} (h : read access v = .ok t) :
    ∃ w, Says access v w := by
  obtain ⟨draft, htakes, kind, hkind, hlength, -⟩ := (read_eq_ok_iff_takes hlayout honce).1 h
  have hparts : Presents access v members kind draft.identity := by
    refine ⟨⟨layout, hlayout⟩, hlength, honce, took_text_iff.1 htakes.identity, ?_⟩
    exact took_kind_iff.1 (hkind ▸ htakes.kind)
  obtain ⟨hnull, -⟩ | ⟨u, e, hfound, hread, -⟩ := took_element_iff.1 htakes.element
  · exact ⟨_, .bare hparts hnull⟩
  · obtain ⟨w, hw⟩ := hmembers _ (mem_of_findPair? hfound) e hread
    exact ⟨_, .around hparts hfound hw⟩

theorem sublist_fields (fields : List String) (items : List Value) :
    ((fields.zip items).map (·.1)).Sublist fields := by
  induction fields generalizing items with
  | nil => exact List.nil_sublist _
  | cons field rest ih =>
    cases items with
    | nil => exact List.nil_sublist _
    | cons v items => exact (ih items).cons_cons field

/-- A proper value that is read says something. -/
theorem exists_says {access : Access} {v : Value} (hv : v.Proper) {t : TypeRef}
    (h : read access v = .ok t) : ∃ w, Says access v w := by
  induction hv generalizing t with
  | object hascending hfields ih =>
    exact exists_says_of_members rfl hascending.nodup_keys
      (fun field hfield _ => ih field hfield) h
  | list hitems ih =>
    refine exists_says_of_members rfl ?_ ?_ h
    · exact List.Nodup.sublist (sublist_fields _ _) (by decide)
    · rintro ⟨field, u⟩ hmember _
      exact ih u (List.of_mem_zip hmember).2
  | _ => cases h

theorem ascending_bare (identity kind : Value) :
    Ascending [("identity", identity), ("kind", kind)] := by
  have hkeys : ["identity", "kind"].Pairwise (· < ·) := by decide
  exact List.pairwise_map.1 hkeys

theorem ascending_around (element identity kind : Value) :
    Ascending [("element", element), ("identity", identity), ("kind", kind)] := by
  have hkeys : ["element", "identity", "kind"].Pairwise (· < ·) := by decide
  exact List.pairwise_map.1 hkeys

/-- Every wire form can be written. -/
theorem says_toJson (access : Access) (w : Wire) : Says access w.toJson w := by
  have hkind (kind : TypeKind) :
      Json.readVariant access kindWords (.text kind.word) = .ok kind := pickVariant_word kind
  induction w with
  | bare kind identity =>
    have honce := (ascending_bare (.text identity) (.text kind.word)).nodup_keys
    exact .bare ⟨⟨.named, rfl⟩, rfl, honce, rfl, _, rfl, hkind kind⟩ rfl
  | around kind identity element ih =>
    have honce := (ascending_around element.toJson (.text identity) (.text kind.word)).nodup_keys
    exact .around ⟨⟨.named, rfl⟩, rfl, honce, rfl, _, rfl, hkind kind⟩ rfl ih

theorem proper_toJson (w : Wire) : w.toJson.Proper := by
  have hends (kind : TypeKind) (identity : String) :
      ∀ field ∈ [("identity", Value.text identity), ("kind", .text kind.word)], field.2.Proper :=
    List.forall_mem_cons.2 ⟨.text _, List.forall_mem_cons.2 ⟨.text _, List.forall_mem_nil _⟩⟩
  induction w with
  | bare kind identity => exact .object (ascending_bare _ _) (hends kind identity)
  | around kind identity element ih =>
    exact .object (ascending_around _ _ _) (List.forall_mem_cons.2 ⟨ih, hends kind identity⟩)

/-! ## References and their wire forms -/

/-- The wire form of a reference, with derived identities left out. -/
def wire : TypeRef → Wire
  | .leaf kind identity => .bare (.leaf kind) identity
  | .collection identity element =>
      .around .collection (if identity = derivedIdentity element then "" else identity) element.wire

/-- A well-formed reference is what its wire form denotes. -/
theorem denotes_wire {t : TypeRef} (h : t.WellFormed) : t.wire.Denotes t := by
  induction t with
  | leaf kind identity => exact .leaf h
  | collection identity element ih =>
    obtain ⟨helement, hidentity⟩ := h
    rw [wire]
    split
    · rename_i hderived
      subst hderived
      exact .derived (ih helement)
    · rename_i hderived
      obtain ⟨hown, hne⟩ := hidentity.resolve_left hderived
      exact .own (ih helement) hown hne

/-- The references that can be built. -/
inductive Constructed : TypeRef → Prop where
  | message {identity : String} {t : TypeRef} (h : message identity = .ok t) : Constructed t
  | enumeration {identity : String} {t : TypeRef} (h : enumeration identity = .ok t) :
      Constructed t
  | primitive {identity : String} {t : TypeRef} (h : primitive identity = .ok t) : Constructed t
  | collectionOf {element : TypeRef} (h : Constructed element) : Constructed (collectionOf element)

theorem constructed_of_named {kind : LeafKind} {identity : String} {t : TypeRef}
    (h : named kind identity = .ok t) : Constructed t := by
  cases kind with
  | message => exact .message h
  | enumeration => exact .enumeration h
  | primitive => exact .primitive h

theorem derived_of_named {kind : LeafKind} {identity : String} {t : TypeRef}
    (h : named kind identity = .ok t) : t.Derived := by
  obtain ⟨-, rfl⟩ := named_eq_ok.1 h
  trivial

/-- What can be built is what is well formed with derived identities alone. -/
theorem constructed_iff {t : TypeRef} : Constructed t ↔ t.WellFormed ∧ t.Derived := by
  constructor
  · intro h
    induction h with
    | message h => exact ⟨wellFormed_of_named h, derived_of_named h⟩
    | enumeration h => exact ⟨wellFormed_of_named h, derived_of_named h⟩
    | primitive h => exact ⟨wellFormed_of_named h, derived_of_named h⟩
    | collectionOf _ ih => exact ⟨wellFormed_collectionOf ih.1, rfl, ih.2⟩
  · rintro ⟨hwell, hderived⟩
    induction t with
    | leaf kind identity => exact constructed_of_named (named_eq_ok.2 ⟨hwell, rfl⟩)
    | collection identity element ih =>
      obtain ⟨rfl, helement⟩ := hderived
      exact .collectionOf (ih hwell.1 helement)

/-- The references that can be decoded are the well-formed ones, and those that can be built are
the well-formed ones with derived identities.

Every wire form can be written.  Whatever JSON text is read, its value is decoded as the reference
that its wire form denotes, and refused if it has no wire form or one that denotes none. -/
theorem decodable_iff_wellFormed (access : Access) :
    (∀ t, (∃ v, v.Proper ∧ read access v = .ok t) ↔ t.WellFormed) ∧
      (∀ w, ∃ v, v.Proper ∧ Says access v w) ∧
      (∀ v, v.Proper → ∀ t, read access v = .ok t ↔ ∃ w, Says access v w ∧ w.Denotes t) ∧
      (∀ text v, Json.read? text = some v → v.Proper) ∧
      (∀ t, Constructed t ↔ t.WellFormed ∧ t.Derived) := by
  refine ⟨?_, ?_, ?_, fun _ _ => Json.read?_proper, fun t => constructed_iff⟩
  · intro t
    constructor
    · rintro ⟨v, -, hread⟩
      exact wellFormed_of_read hread
    · intro ht
      have hsays := says_toJson access t.wire
      exact ⟨t.wire.toJson, proper_toJson _, hsays.read_eq_ok_iff.2 (denotes_wire ht)⟩
  · intro w
    exact ⟨w.toJson, proper_toJson w, says_toJson access w⟩
  · intro v hv t
    constructor
    · intro hread
      obtain ⟨w, hw⟩ := exists_says hv hread
      exact ⟨w, hw, hw.read_eq_ok_iff.1 hread⟩
    · rintro ⟨w, hw, ht⟩
      exact hw.read_eq_ok_iff.2 ht

end SampleForge.TypeRef
