import SampleForge.Proofs.TypeRef.WellFormed

/-!
# Reading a reference back

The wire form of a collection holds its identity, derived or not.  The reader takes an identity
that is there for one that was given, and refuses a derived one for the blank in it.  So a
reference reads back from its wire form, kind by kind and element by element, when no collection
in it has a derived identity.  Otherwise the innermost derived identity is the reason for the
refusal (`read_toJson`).
-/

namespace SampleForge.TypeRef

open Json (Access Fault Value)
open Outcome

/-- The fault of parts that make no reference. -/
def refusal (e : ViewError) : Fault := .refused e.message

/-- The innermost derived identity of the collections of a reference. -/
def derived? : TypeRef → Option String
  | .leaf _ _ => none
  | .collection identity element =>
      match element.derived? with
      | some inner => some inner
      | none => if identity = derivedIdentity element then some identity else none

/-! ## One level -/

theorem pickVariant_word (kind : TypeKind) : Json.pickVariant kindWords kind.word = .ok kind := by
  cases kind with
  | leaf kind =>
    cases kind with
    | message => rfl
    | enumeration => rfl
    | primitive => rfl
  | collection => rfl

theorem readMember_identity (access : Access) (draft : Draft) (identity : String) :
    readMember access draft "identity" (.text identity) = .ok { draft with identity } := rfl

theorem readMember_kind (access : Access) (draft : Draft) (kind : TypeKind) :
    readMember access draft "kind" (.text kind.word) = .ok { draft with kind := some kind } := by
  simp [readMember, Draft.set, Json.readVariant, pickVariant_word]

theorem isNull_toJson (t : TypeRef) : t.toJson.isNull = false := by
  cases t with
  | leaf kind identity => rfl
  | collection identity element => rfl

theorem readMember_element (access : Access) (draft : Draft) (element : TypeRef) :
    readMember access draft "element" element.toJson =
      (read access element.toJson).map fun element => { draft with element := some element } := by
  simp [readMember, isNull_toJson]

theorem finish_complete (absent : String → Fault) (identity : String) (kind : TypeKind)
    (element : Option TypeRef) :
    Draft.finish absent (.ok ()) { identity, kind := some kind, element } =
      (ofParts identity kind element).mapError refusal := by
  simp only [Draft.finish, Json.require, bind_ok]
  cases ofParts identity kind element with
  | error e => rfl
  | ok t => rfl

theorem read_toJson_leaf (access : Access) (kind : LeafKind) (identity : String) :
    read access (toJson (.leaf kind identity)) = (named kind identity).mapError refusal := by
  rw [toJson, read, readFields_cons, readMember_identity, bind_ok, readFields_cons,
    readMember_kind, bind_ok, readFields, pure_eq, bind_ok]
  exact finish_complete (shape.absent .named) identity (.leaf kind) none

theorem read_toJson_collection (access : Access) (identity : String) (element : TypeRef) :
    read access (toJson (.collection identity element)) =
      (read access element.toJson >>= fun element =>
        (collectionNamed identity element).mapError refusal) := by
  rw [toJson, read, readFields_cons, readMember_element]
  cases read access element.toJson with
  | error e => rfl
  | ok element =>
    rw [Except.map, bind_ok, readFields_cons, readMember_identity, bind_ok, readFields_cons,
      readMember_kind, bind_ok, readFields, pure_eq, bind_ok]
    exact finish_complete (shape.absent .named) identity .collection (some element)

theorem collectionNamed_derivedIdentity (element : TypeRef) :
    collectionNamed (derivedIdentity element) element =
      .error (.malformedIdentity (derivedIdentity element)) := by
  rw [collectionNamed, if_neg (derivedIdentity_ne_empty element), checkIdentity_derivedIdentity]
  rfl

theorem collectionNamed_of_isIdentity {identity : String} {element : TypeRef}
    (h : IsIdentity identity) (hne : identity ≠ element.identity) :
    collectionNamed identity element = .ok (.collection identity element) :=
  collectionNamed_eq_ok.2 (.inr ⟨h, hne, rfl⟩)

/-! ## All levels -/

/-- What the wire form of a well-formed reference reads as. -/
theorem read_toJson {t : TypeRef} (h : t.WellFormed) (access : Access) :
    read access t.toJson =
      match t.derived? with
      | none => .ok t
      | some identity => .error (refusal (.malformedIdentity identity)) := by
  induction t with
  | leaf kind identity =>
    rw [read_toJson_leaf, named, checkIdentity_eq_ok.2 h]
    rfl
  | collection identity element ih =>
    obtain ⟨helement, hidentity⟩ := h
    rw [read_toJson_collection, ih helement, derived?]
    cases helem : element.derived? with
    | some inner => rfl
    | none =>
      rcases hidentity with rfl | ⟨hid, hne⟩
      · rw [bind_ok, collectionNamed_derivedIdentity, if_pos rfl]
        rfl
      · have hown : identity ≠ derivedIdentity element := by
          rintro rfl
          exact not_isIdentity_derivedIdentity element hid
        rw [bind_ok, collectionNamed_of_isIdentity hid hne, if_neg hown]
        rfl

/-- A reference that can be obtained reads back from its wire form exactly when no collection in
it has a derived identity.  Otherwise the innermost derived identity is refused as malformed. -/
theorem read_toJson_eq_ok_iff {t : TypeRef} (ht : Obtainable t) (access : Access) :
    (read access t.toJson = .ok t ↔ t.derived? = none) ∧
      ∀ identity, t.derived? = some identity →
        read access t.toJson =
          .error (.refused (ViewError.malformedIdentity identity).message) := by
  rw [read_toJson ht.wellFormed access]
  cases t.derived? with
  | none => simp
  | some inner =>
    constructor
    · simp
    · rintro identity hidentity
      cases hidentity
      rfl

/-- Two levels of collections with identities of their own read back. -/
theorem read_toJson_shelves :
    let t := TypeRef.collection "a.Shelves" (.collection "a.Shelf" (.leaf .enumeration "a.Book"))
    Obtainable t ∧ t.derived? = none ∧ read .buffered t.toJson = .ok t := by
  intro t
  have hread : read .direct t.toJson = .ok t := rfl
  have hnone : t.derived? = none := by decide
  exact ⟨.read hread, hnone, (read_toJson_eq_ok_iff (.read hread) .buffered).1.2 hnone⟩

/-- The collection of a message does not read back. -/
theorem read_toJson_books :
    Obtainable (collectionOf (.leaf .message "a.Book")) ∧
      read .direct (collectionOf (.leaf .message "a.Book")).toJson ≠
        .ok (collectionOf (.leaf .message "a.Book")) := by
  have hbook : named .message "a.Book" = .ok (.leaf .message "a.Book") := rfl
  refine ⟨.collectionOf (.named hbook), ?_⟩
  intro h
  cases h

end SampleForge.TypeRef
