import SampleForge.Proofs.SymbolTable.Closure
import SampleForge.Proofs.SymbolTable.Nicknames
import SampleForge.Proofs.TypeRef.Decoding

/-!
# What an identity tells

A table tells types apart by identity and by nothing else.  The identity of a derived collection
starts with a word and a blank.  No other identity has a blank in it, so this start can be cut off
again: what is left is the identity of the element (`WellFormed.identity_eq_derivedIdentity_iff`).

For references that were built, the identity therefore tells how deep the collections are nested
and what is at the bottom (`Constructed.sameAs_iff`).  For all references that can be obtained, it
tells the derived collections of one element from everything else, and so does a table that holds
them.
-/

namespace SampleForge

namespace TypeRef

/-! ## Nesting -/

/-- How many collections are nested in each other. -/
def depth : TypeRef → Nat
  | .leaf _ _ => 0
  | .collection _ element => element.depth + 1

/-- The identity of the type within all collections. -/
def leafIdentity : TypeRef → String
  | .leaf _ identity => identity
  | .collection _ element => element.leafIdentity

/-! ## Equality -/

/-- References are equal in order exactly if they are the same. -/
theorem sameAs_iff_not_isBefore {a b : TypeRef} :
    a.sameAs b = true ↔ a.isBefore b = false ∧ b.isBefore a = false := by
  rw [sameAs_iff, isBefore, isBefore, decide_eq_false_iff_not, decide_eq_false_iff_not]
  constructor
  · intro h
    rw [h]
    exact ⟨String.lt_irrefl _, String.lt_irrefl _⟩
  · rintro ⟨hnot, hnot'⟩
    by_contra hne
    exact hnot' (lt_of_not_lt_of_ne hnot hne)

/-- Derived identities are equal only for one element. -/
theorem derivedIdentity_inj {a b : TypeRef} :
    derivedIdentity a = derivedIdentity b ↔ a.sameAs b = true := by
  rw [derivedIdentity, derivedIdentity, String.append_right_inj, sameAs_iff]

/-- What is made of segments is no derived identity, as there is a blank in that. -/
theorem IsIdentity.ne_derivedIdentity {identity : String} (h : IsIdentity identity)
    (element : TypeRef) : identity ≠ derivedIdentity element := by
  rintro rfl
  exact not_isIdentity_derivedIdentity element h

section Cancelling

variable {t element : TypeRef}

theorem identity_ne_of_named {kind : LeafKind} {identity : String}
    (h : named kind identity = .ok t) : t.identity ≠ derivedIdentity element := by
  obtain ⟨hidentity, rfl⟩ := named_eq_ok.1 h
  exact hidentity.ne_derivedIdentity element

theorem identity_ne_of_collectionNamed {identity : String} {inner : TypeRef}
    (hgiven : identity ≠ "") (h : collectionNamed identity inner = .ok t) :
    t.identity ≠ derivedIdentity element := by
  obtain ⟨hempty, _⟩ | ⟨hidentity, _, rfl⟩ := collectionNamed_eq_ok.1 h
  · exact absurd hempty hgiven
  · exact hidentity.ne_derivedIdentity element

/-- A well-formed reference has a derived identity only as a derived collection. -/
theorem WellFormed.identity_eq_derivedIdentity_iff (ht : t.WellFormed) :
    t.identity = derivedIdentity element ↔ ∃ e, t = collectionOf e ∧ e.sameAs element = true := by
  constructor
  · intro h
    cases t with
    | leaf kind identity =>
      have hidentity : IsIdentity identity := ht
      exact absurd h (hidentity.ne_derivedIdentity element)
    | collection identity e =>
      rcases ht.2 with rfl | ⟨hidentity, _⟩
      · exact ⟨e, rfl, derivedIdentity_inj.1 h⟩
      · exact absurd h (hidentity.ne_derivedIdentity element)
  · rintro ⟨e, rfl, he⟩
    exact derivedIdentity_inj.2 he

end Cancelling

theorem Constructed.isIdentity {kind : LeafKind} {identity : String}
    (h : Constructed (.leaf kind identity)) : IsIdentity identity :=
  (constructed_iff.1 h).1

theorem Constructed.element {identity : String} {element : TypeRef}
    (h : Constructed (.collection identity element)) :
    identity = derivedIdentity element ∧ Constructed element := by
  obtain ⟨hwell, hidentity, hderived⟩ := constructed_iff.1 h
  exact ⟨hidentity, constructed_iff.2 ⟨hwell.1, hderived⟩⟩

/-- References that were built are the same exactly if they are nested as deep and have the same
type within. -/
theorem Constructed.sameAs_iff {a b : TypeRef} (ha : Constructed a) (hb : Constructed b) :
    a.sameAs b = true ↔ a.depth = b.depth ∧ a.leafIdentity = b.leafIdentity := by
  induction a generalizing b with
  | leaf kind identity =>
    cases b with
    | leaf kind' identity' => simp [TypeRef.sameAs_iff, TypeRef.identity, depth, leafIdentity]
    | collection identity' element' =>
      obtain ⟨rfl, _⟩ := hb.element
      have hne := ha.isIdentity.ne_derivedIdentity element'
      simp [TypeRef.sameAs_iff, TypeRef.identity, depth, hne]
  | collection identity element ih =>
    obtain ⟨rfl, helement⟩ := ha.element
    cases b with
    | leaf kind' identity' =>
      have hne := (hb.isIdentity.ne_derivedIdentity element).symm
      simp [TypeRef.sameAs_iff, TypeRef.identity, depth, hne]
    | collection identity' element' =>
      obtain ⟨rfl, helement'⟩ := hb.element
      rw [TypeRef.sameAs_iff, depth, depth, leafIdentity, leafIdentity, Nat.succ_inj,
        ← ih helement helement']
      exact derivedIdentity_inj

/-! ## Well-formed types of a table -/

theorem WellFormed.of_reached {types : List TypeRef} (h : ∀ t ∈ types, t.WellFormed) {t : TypeRef}
    (ht : Reached types t) : t.WellFormed := by
  induction ht with
  | given hmem => exact h _ hmem
  | @element t e _ helement ih =>
    cases t with
    | leaf kind identity => cases helement
    | collection identity inner =>
      cases helement
      exact ih.1

end TypeRef

namespace SymbolTable

open TypeRef (Constructed Obtainable Reached WellFormed collectionOf collectionNamed
  derivedIdentity named)

/-- Reservations record nothing but what is reached from the reserved types. -/
theorem reached_of_mem_types_reserveAll {table : SymbolTable} {types : List TypeRef} {t : TypeRef}
    (ht : t ∈ (table.reserveAll types).types) : t ∈ table.types ∨ Reached types t := by
  induction types generalizing table with
  | nil => exact .inl ht
  | cons first rest ih =>
    rcases ih ht with hbefore | hrest
    · rw [types_reserve] at hbefore
      rcases List.mem_append.1 hbefore with hbefore | hunmet
      · exact .inl hbefore
      · have hchain := (TypeRef.unmet_sublist_chain _ first).subset hunmet
        exact .inr ((Reached.given List.mem_cons_self).of_mem_chain hchain)
    · exact .inr (hrest.mono fun _ => List.mem_cons_of_mem first)

/-- The types of a table are well formed, if those of its calls are. -/
theorem wellFormed_of_mem_run (policy : ImportPolicy) {calls : List Call}
    (hcalls : ∀ t ∈ calls.flatMap Call.types, t.WellFormed) {t : TypeRef}
    (ht : t ∈ ((empty policy).run calls).types) : t.WellFormed := by
  rw [run_eq] at ht
  rcases reached_of_mem_types_reserveAll ht with hempty | hreached
  · cases hempty
  · exact WellFormed.of_reached hcalls hreached

/-- What is found for a derived collection was recorded for one of the same element. -/
theorem exists_entry_of_nickname {table : SymbolTable}
    (htable : ∀ t ∈ table.types, t.WellFormed) {element : TypeRef} {nickname : String}
    (h : table.nickname? (collectionOf element) = some nickname) :
    ∃ e, (collectionOf e, nickname) ∈ table.entries ∧ e.sameAs element = true := by
  obtain ⟨⟨t, _⟩, hentry, hidentity, rfl⟩ := mem_entries_of_nickname h
  have ht : t.WellFormed := htable t (List.mem_map_of_mem hentry)
  obtain ⟨e, rfl, he⟩ := ht.identity_eq_derivedIdentity_iff.1 hidentity
  exact ⟨e, hentry, he⟩

/-- An identity tells all that matters of a reference that was built: how deep its collections are
nested and which type is within.  Equality and order agree on this.

No leaf and no collection with an identity of its own has a derived identity, so a reference that
can be obtained has one only as a derived collection of the same element.  A table therefore finds
for such a collection what was recorded for one of the same element, and nothing else that can be
obtained has its nickname. -/
theorem identity_faithful :
    (∀ a b, Constructed a → Constructed b →
      (a.sameAs b = true ↔ a.depth = b.depth ∧ a.leafIdentity = b.leafIdentity) ∧
        (a.sameAs b = true ↔ a.isBefore b = false ∧ b.isBefore a = false)) ∧
      (∀ element kind identity t, named kind identity = .ok t →
        t.identity ≠ derivedIdentity element) ∧
      (∀ element identity inner t, identity ≠ "" → collectionNamed identity inner = .ok t →
        t.identity ≠ derivedIdentity element) ∧
      (∀ element t, Obtainable t → (t.sameAs (collectionOf element) = true ↔
        ∃ e, t = collectionOf e ∧ e.sameAs element = true)) ∧
      ∀ policy calls, (∀ t ∈ calls.flatMap Call.types, Obtainable t) →
        let table := (empty policy).run calls
        ∀ element nickname, table.nickname? (collectionOf element) = some nickname →
          (∃ e, (collectionOf e, nickname) ∈ table.entries ∧ e.sameAs element = true) ∧
            ∀ t, Obtainable t → table.nickname? t = some nickname →
              ∃ e, t = collectionOf e ∧ e.sameAs element = true := by
  have hsame (element t : TypeRef) (ht : Obtainable t) :
      t.sameAs (collectionOf element) = true ↔
        ∃ e, t = collectionOf e ∧ e.sameAs element = true :=
    TypeRef.sameAs_iff.trans ht.wellFormed.identity_eq_derivedIdentity_iff
  refine ⟨fun a b ha hb => ⟨ha.sameAs_iff hb, TypeRef.sameAs_iff_not_isBefore⟩,
    fun element kind identity t => TypeRef.identity_ne_of_named,
    fun element identity inner t => TypeRef.identity_ne_of_collectionNamed, hsame, ?_⟩
  intro policy calls hcalls table element nickname hfound
  have htable : ∀ t ∈ table.types, t.WellFormed := fun t =>
    wellFormed_of_mem_run policy fun u hu => (hcalls u hu).wellFormed
  refine ⟨exists_entry_of_nickname htable hfound, fun t ht hnickname => ?_⟩
  exact (hsame element t ht).1 (sameAs_of_nickname (nodup_taken_run policy calls) hnickname hfound)

/-- Collections of a message and of an enum with one identity are the same.  A collection with an
identity of its own is another, although it would be called alike. -/
theorem identity_faithful_books :
    let book := TypeRef.leaf .message "a.Book"
    let kinds := TypeRef.leaf .enumeration "a.Book"
    let own := TypeRef.collection "a.Books" book
    let calls := [Call.reserve own, .reserve (collectionOf kinds)]
    let table := (empty (.java none)).run calls
    Constructed (collectionOf book) ∧ Constructed (collectionOf kinds) ∧
      (∀ t ∈ calls.flatMap Call.types, Obtainable t) ∧
      (collectionOf book).sameAs (collectionOf kinds) = true ∧
      table.nickname? own = some "List<Book>" ∧
      table.nickname? (collectionOf book) = some "List<Book>2" ∧
      ∃ e, (collectionOf e, "List<Book>2") ∈ table.entries ∧ e.sameAs book = true := by
  intro book kinds own calls table
  have hmessage : TypeRef.message "a.Book" = .ok book := rfl
  have henum : TypeRef.enumeration "a.Book" = .ok kinds := rfl
  have hbook : Constructed (collectionOf book) := .collectionOf (.message hmessage)
  have hkinds : Constructed (collectionOf kinds) := .collectionOf (.enumeration henum)
  have hown : TypeRef.read .direct own.toJson = .ok own := rfl
  have hcalls : ∀ t ∈ calls.flatMap Call.types, Obtainable t :=
    List.forall_mem_cons.2 ⟨.read hown, List.forall_mem_singleton.2 (.collectionOf (.named henum))⟩
  have hname : table.nickname? own = some "List<Book>" := by decide +kernel
  have hfound : table.nickname? (collectionOf book) = some "List<Book>2" := by decide +kernel
  obtain ⟨hbuilt, _, _, _, htable⟩ := identity_faithful
  have hsame : (collectionOf book).sameAs (collectionOf kinds) = true :=
    (hbuilt _ _ hbook hkinds).1.2 ⟨rfl, rfl⟩
  exact ⟨hbook, hkinds, hcalls, hsame, hname, hfound, (htable _ calls hcalls _ _ hfound).1⟩

end SymbolTable

end SampleForge
