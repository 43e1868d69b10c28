import SampleForge.Proofs.NameSet
import SampleForge.Proofs.SymbolTable.OneEntry

/-!
# The types that a table holds

If one identity always means one type (`Consistent`), then a table holds exactly the types that can
be reached from the reserved ones by taking elements (`mem_types_reserveAll`).

The reason is that it is *closed* at any time: with a type it holds the element of that type.  A
reservation stops at the first type of a chain that is known by its identity.  The table holds this
very type, as one identity means one type, and therefore all that follows in the chain.

The imports that reservations add are those of the types that they record (`imports_reserveAll`).
-/

namespace SampleForge

namespace TypeRef

/-! ## Types within types -/

/-- The types that are reached from others by taking elements. -/
inductive Reached (types : List TypeRef) : TypeRef → Prop where
  /-- The types themselves. -/
  | given {t : TypeRef} : t ∈ types → Reached types t
  /-- The element of a type that is reached. -/
  | element {t element : TypeRef} :
      Reached types t → t.element? = some element → Reached types element

/-- One identity means one type wherever it is reached: types that have it agree in kind and
element. -/
def Consistent (types : List TypeRef) : Prop :=
  ∀ a b, Reached types a → Reached types b → a.identity = b.identity →
    a.kind = b.kind ∧ a.element? = b.element?

variable {types others : List TypeRef}

theorem Reached.trans {t : TypeRef} (h : Reached types t)
    (htypes : ∀ u ∈ types, Reached others u) : Reached others t := by
  induction h with
  | given hmem => exact htypes _ hmem
  | element _ helement ih => exact ih.element helement

theorem Reached.mono {t : TypeRef} (h : Reached types t) (hmem : ∀ u ∈ types, u ∈ others) :
    Reached others t :=
  h.trans fun u hu => .given (hmem u hu)

theorem Consistent.of_reached (h : Consistent others) (htypes : ∀ u ∈ types, Reached others u) :
    Consistent types :=
  fun a b ha hb => h a b (ha.trans htypes) (hb.trans htypes)

/-- A type is its identity, kind and element. -/
theorem eq_of_parts {a b : TypeRef} (hidentity : a.identity = b.identity) (hkind : a.kind = b.kind)
    (helement : a.element? = b.element?) : a = b := by
  cases a with
  | leaf kind identity =>
    cases b with
    | leaf kind' identity' =>
      cases hidentity
      cases hkind
      rfl
    | collection identity' element' => cases helement
  | collection identity element =>
    cases b with
    | leaf kind' identity' => cases helement
    | collection identity' element' =>
      cases hidentity
      cases helement
      rfl

theorem Consistent.eq (h : Consistent types) {a b : TypeRef} (ha : Reached types a)
    (hb : Reached types b) (hidentity : a.identity = b.identity) : a = b := by
  obtain ⟨hkind, helement⟩ := h a b ha hb hidentity
  exact eq_of_parts hidentity hkind helement

/-! ## Chains -/

theorem self_mem_chain (t : TypeRef) : t ∈ t.chain := by
  cases t with
  | leaf kind identity => exact List.mem_singleton_self _
  | collection identity element => exact List.mem_append_right _ (List.mem_singleton_self _)

theorem Reached.of_mem_chain {t u : TypeRef} (h : Reached types t) (hu : u ∈ t.chain) :
    Reached types u := by
  induction t with
  | leaf kind identity =>
    rw [List.mem_singleton.1 hu]
    exact h
  | collection identity element ih =>
    rcases List.mem_append.1 hu with hu | hu
    · exact ih (h.element rfl) hu
    · rw [List.mem_singleton.1 hu]
      exact h

theorem element_mem_chain {t u element : TypeRef} (hu : u ∈ t.chain)
    (helement : u.element? = some element) : element ∈ t.chain := by
  induction t with
  | leaf kind identity =>
    rw [List.mem_singleton.1 hu] at helement
    cases helement
  | collection identity inner ih =>
    rcases List.mem_append.1 hu with hu | hu
    · exact List.mem_append_left _ (ih hu)
    · rw [List.mem_singleton.1 hu] at helement
      cases helement
      exact List.mem_append_left _ (self_mem_chain element)

/-- What is reached are the chains. -/
theorem reached_iff {u : TypeRef} : Reached types u ↔ u ∈ types.flatMap chain := by
  rw [List.mem_flatMap]
  constructor
  · intro h
    induction h with
    | given hmem => exact ⟨_, hmem, self_mem_chain _⟩
    | element _ helement ih =>
      obtain ⟨t, ht, hu⟩ := ih
      exact ⟨t, ht, element_mem_chain hu helement⟩
  · rintro ⟨t, ht, hu⟩
    exact (Reached.given ht).of_mem_chain hu

instance (types : List TypeRef) : Decidable (Consistent types) :=
  decidable_of_iff
    (∀ a ∈ types.flatMap chain, ∀ b ∈ types.flatMap chain, a.identity = b.identity →
      a.kind = b.kind ∧ a.element? = b.element?)
    ⟨fun h a b ha hb => h a (reached_iff.1 ha) b (reached_iff.1 hb),
      fun h a ha b hb => h a b (reached_iff.2 ha) (reached_iff.2 hb)⟩

theorem sizeOf_le_of_mem_chain {t u : TypeRef} (hu : u ∈ t.chain) : sizeOf u ≤ sizeOf t := by
  induction t with
  | leaf kind identity => rw [List.mem_singleton.1 hu]
  | collection identity element ih =>
    rcases List.mem_append.1 hu with hu | hu
    · have hle := ih hu
      simp only [collection.sizeOf_spec]
      omega
    · rw [List.mem_singleton.1 hu]

/-- A chain does not repeat an identity, since a type is no part of itself. -/
theorem Consistent.nodup_chain (h : Consistent types) {t : TypeRef} (ht : Reached types t) :
    (t.chain.map identity).Nodup := by
  induction t with
  | leaf kind identity => exact List.nodup_singleton _
  | collection name element ih =>
    have helement : Reached types element := ht.element rfl
    rw [chain, List.map_append, List.nodup_append]
    refine ⟨ih helement, List.nodup_singleton _, ?_⟩
    rintro inner hinner outer houter rfl
    obtain ⟨u, hu, hidentity⟩ := List.mem_map.1 hinner
    have hself : u = .collection name element :=
      h.eq (helement.of_mem_chain hu) ht (hidentity.trans (List.mem_singleton.1 houter))
    have hle := sizeOf_le_of_mem_chain hu
    rw [hself, collection.sizeOf_spec] at hle
    omega

/-! ## What a reservation passes -/

theorem self_mem_unmet {met : List String} {t : TypeRef} (h : t.identity ∉ met) :
    t ∈ t.unmet met := by
  cases t with
  | leaf kind identity =>
    have hnew : identity ∉ met := h
    rw [unmet, if_neg hnew]
    exact List.mem_singleton_self _
  | collection identity element =>
    have hnew : identity ∉ met := h
    rw [unmet, if_neg hnew]
    exact List.mem_append_right _ (List.mem_singleton_self _)

/-- With a type a reservation passes its element, unless that has been met. -/
theorem element_mem_unmet {met : List String} {t u element : TypeRef} (hu : u ∈ t.unmet met)
    (helement : u.element? = some element) :
    element.identity ∈ met ∨ element ∈ t.unmet met := by
  induction t with
  | leaf kind identity =>
    have hleaf := List.mem_singleton.1 ((unmet_sublist_chain met _).subset hu)
    rw [hleaf] at helement
    cases helement
  | collection identity inner ih =>
    by_cases hmet : identity ∈ met
    · rw [unmet, if_pos hmet] at hu
      cases hu
    · rw [unmet, if_neg hmet] at hu ⊢
      rcases List.mem_append.1 hu with hu | hu
      · exact (ih hu).imp_right (List.mem_append_left _)
      · rw [List.mem_singleton.1 hu] at helement
        cases helement
        by_cases hinner : element.identity ∈ met
        · exact .inl hinner
        · exact .inr (List.mem_append_left _ (self_mem_unmet hinner))

end TypeRef

namespace SymbolTable

open TypeRef (Consistent Reached)

/-! ## Closed tables -/

/-- The types of the entries. -/
def types (table : SymbolTable) : List TypeRef := table.entries.map (·.1)

theorem mem_known {table : SymbolTable} {identity : String} :
    identity ∈ table.known ↔ ∃ t ∈ table.types, t.identity = identity := by
  rw [known_eq_map, List.mem_map]
  rfl

theorem types_reserve (table : SymbolTable) (t : TypeRef) :
    (table.reserve t).2.types = table.types ++ t.unmet table.known :=
  (reserves_assign { table with requests := table.requests + 1 } t).types_eq

/-- A table holds nothing but what is reached from some types, and with a type its element. -/
structure Closed (given : List TypeRef) (table : SymbolTable) : Prop where
  /-- The types of the table are reached. -/
  reached : ∀ t ∈ table.types, Reached given t
  /-- The elements of its types are in the table. -/
  element : ∀ t ∈ table.types, ∀ e, t.element? = some e → e ∈ table.types

section Closing

variable {given : List TypeRef} (hconsistent : Consistent given) {table : SymbolTable}

include hconsistent

/-- A closed table holds every type that it knows by identity. -/
theorem Closed.mem_of_known (h : Closed given table) {t : TypeRef} (ht : Reached given t)
    (hknown : t.identity ∈ table.known) : t ∈ table.types := by
  obtain ⟨u, hu, hidentity⟩ := mem_known.1 hknown
  rw [← hconsistent.eq (h.reached u hu) ht hidentity]
  exact hu

/-- A reservation closes the table again, and the type is there. -/
theorem Closed.reserve (h : Closed given table) {t : TypeRef} (ht : Reached given t) :
    Closed given (table.reserve t).2 ∧ t ∈ (table.reserve t).2.types := by
  have hunmet : ∀ u ∈ t.unmet table.known, Reached given u := fun u hu =>
    ht.of_mem_chain ((TypeRef.unmet_sublist_chain _ t).subset hu)
  rw [types_reserve]
  refine ⟨⟨?_, ?_⟩, ?_⟩
  · rw [types_reserve, List.forall_mem_append]
    exact ⟨h.reached, hunmet⟩
  · rw [types_reserve]
    intro u hu e he
    rcases List.mem_append.1 hu with hu | hu
    · exact List.mem_append_left _ (h.element u hu e he)
    · rcases TypeRef.element_mem_unmet hu he with hknown | hmem
      · exact List.mem_append_left _
          (h.mem_of_known hconsistent ((hunmet u hu).element he) hknown)
      · exact List.mem_append_right _ hmem
  · by_cases hknown : t.identity ∈ table.known
    · exact List.mem_append_left _ (h.mem_of_known hconsistent ht hknown)
    · exact List.mem_append_right _ (TypeRef.self_mem_unmet hknown)

theorem Closed.reserveAll (h : Closed given table) {rest : List TypeRef}
    (hrest : ∀ t ∈ rest, Reached given t) :
    Closed given (table.reserveAll rest) ∧
      (∀ t ∈ table.types, t ∈ (table.reserveAll rest).types) ∧
      ∀ t ∈ rest, t ∈ (table.reserveAll rest).types := by
  induction rest generalizing table with
  | nil =>
    refine ⟨h, fun _ ht => ht, ?_⟩
    rintro _ ⟨⟩
  | cons t rest ih =>
    obtain ⟨ht, hrest⟩ := List.forall_mem_cons.1 hrest
    obtain ⟨hnext, hmem⟩ := h.reserve hconsistent ht
    obtain ⟨hclosed, hkeeps, hthere⟩ := ih hnext hrest
    rw [reserveAll_cons]
    refine ⟨hclosed, ?_, List.forall_mem_cons.2 ⟨hkeeps t hmem, hthere⟩⟩
    intro u hu
    apply hkeeps u
    rw [types_reserve]
    exact List.mem_append_left _ hu

/-- A fresh table holds what is reached from the reserved types. -/
theorem mem_types_reserveAll (policy : ImportPolicy) {t : TypeRef} :
    t ∈ ((empty policy).reserveAll given).types ↔ Reached given t := by
  have hempty : Closed given (empty policy) := by
    constructor
    · rintro _ ⟨⟩
    · rintro _ ⟨⟩
  obtain ⟨hclosed, _, hthere⟩ := hempty.reserveAll hconsistent fun t ht => .given ht
  constructor
  · exact hclosed.reached t
  · intro h
    induction h with
    | given hmem => exact hthere _ hmem
    | element _ helement ih => exact hclosed.element _ ih _ helement

theorem nodup_types_reserveAll (policy : ImportPolicy) :
    ((empty policy).reserveAll given).types.Nodup := by
  have hknown : ((empty policy).reserveAll given).known.Nodup := by
    rw [nodup_known_reserveAll_iff]
    exact ⟨List.nodup_nil,
      TypeRef.unrepeated_of_nodup_chain _ fun t ht => hconsistent.nodup_chain (.given ht)⟩
  rw [known_eq_map] at hknown
  exact hknown.of_map

/-- Types that reach the same make tables of the same types. -/
theorem types_perm_of_reached (policy : ImportPolicy) {others : List TypeRef}
    (hothers : Consistent others) (h : ∀ t, Reached given t ↔ Reached others t) :
    ((empty policy).reserveAll given).types.Perm ((empty policy).reserveAll others).types := by
  rw [List.perm_ext_iff_of_nodup (nodup_types_reserveAll hconsistent policy)
    (nodup_types_reserveAll hothers policy)]
  intro t
  rw [mem_types_reserveAll hconsistent, mem_types_reserveAll hothers, h]

end Closing

/-! ## Imports -/

theorem Reserves.imports_eq {table after : SymbolTable} {t : TypeRef} {nickname : String}
    (h : Reserves table t nickname after) :
    after.imports =
      table.imports.insertAll ((t.unmet table.known).flatMap table.policy.imports) := by
  induction h with
  | known h =>
    rw [TypeRef.unmet_of_mem (mem_known_of_nickname h)]
    rfl
  | leaf hnew _ => simp [record, TypeRef.unmet, hnew]
  | collection hnew helement _ ih =>
    simp [record, TypeRef.unmet, hnew, ih, helement.policy_eq, NameSet.insertAll_append]

/-- Reservations add the imports of the types that they record. -/
theorem imports_reserveAll (table : SymbolTable) (types : List TypeRef) :
    ∃ new, (table.reserveAll types).types = table.types ++ new ∧
      (table.reserveAll types).imports =
        table.imports.insertAll (new.flatMap table.policy.imports) := by
  induction types generalizing table with
  | nil => exact ⟨[], (List.append_nil _).symm, rfl⟩
  | cons t rest ih =>
    have hreserves := reserves_assign { table with requests := table.requests + 1 } t
    have himports : (table.reserve t).2.imports =
        table.imports.insertAll ((t.unmet table.known).flatMap table.policy.imports) :=
      hreserves.imports_eq
    obtain ⟨new, htypes, hnew⟩ := ih (table.reserve t).2
    refine ⟨t.unmet table.known ++ new, ?_, ?_⟩
    · rw [reserveAll_cons, htypes, types_reserve, List.append_assoc]
    · rw [reserveAll_cons, hnew, policy_reserve, himports, ← NameSet.insertAll_append,
        List.flatMap_append]

theorem mem_imports_reserveAll (policy : ImportPolicy) {types : List TypeRef}
    {statement : String} :
    statement ∈ ((empty policy).reserveAll types).imports ↔
      ∃ t ∈ ((empty policy).reserveAll types).types, statement ∈ policy.imports t := by
  obtain ⟨new, htypes, himports⟩ := imports_reserveAll (empty policy) types
  have hempty : (empty policy).types = [] := rfl
  rw [hempty, List.nil_append] at htypes
  rw [himports, htypes, NameSet.mem_insertAll, List.mem_flatMap]
  constructor
  · rintro (h | h)
    · exact h
    · cases h
  · exact .inl

end SymbolTable

end SampleForge
