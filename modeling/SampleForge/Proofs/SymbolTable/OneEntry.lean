import SampleForge.Proofs.SymbolTable.Reservation
import SampleForge.Proofs.TypeRef.Chain
import SampleForge.Proofs.TypeRef.WellFormed

/-!
# One entry per type

A table should hold one entry for each type, and a look-up should find the nickname of that entry.
A reservation looks a type up before it walks down the element chain, and does not look again when
it records what it passed.  So an identity that occurs twice above the first known type of a chain
is recorded twice.

`Unrepeated` says of a sequence of reservations that this never happens, and the table has one
entry per type exactly then (`oneEntryPerType_reserveAll_iff`).  Where all collections have derived
identities it cannot happen, since each identity of a chain is longer than that of its element
(`nodup_chain_of_derived`).
-/

namespace SampleForge

namespace TypeRef

/-- Whether no reservation of a sequence passes one identity twice, given the identities met
before. -/
def Unrepeated (met : List String) : List TypeRef → Prop
  | [] => True
  | t :: rest =>
      (t.unmetIdentities met).Nodup ∧ Unrepeated (met ++ t.unmetIdentities met) rest

theorem unmet_sublist_chain (met : List String) (t : TypeRef) : (t.unmet met).Sublist t.chain := by
  induction t with
  | leaf kind identity =>
    rw [unmet]
    split
    · exact List.nil_sublist _
    · exact List.Sublist.refl _
  | collection identity element ih =>
    rw [unmet]
    split
    · exact List.nil_sublist _
    · exact ih.append (List.Sublist.refl _)

/-- Chains without a repeated identity never repeat one, in any order of reservation. -/
theorem unrepeated_of_nodup_chain (met : List String) {types : List TypeRef}
    (h : ∀ t ∈ types, (t.chain.map identity).Nodup) : Unrepeated met types := by
  induction types generalizing met with
  | nil => trivial
  | cons t rest ih =>
    refine ⟨?_, ih _ fun u hu => h u (List.mem_cons_of_mem _ hu)⟩
    exact (h t List.mem_cons_self).sublist ((unmet_sublist_chain met t).map identity)

end TypeRef

namespace SymbolTable

/-- No two entries are of one type, and each is found by its type. -/
structure OneEntryPerType (table : SymbolTable) : Prop where
  /-- Different entries are of different types. -/
  distinct : table.entries.Pairwise fun a b => a.1.sameAs b.1 = false
  /-- The nickname of a type is that of its entry. -/
  lookup : ∀ entry ∈ table.entries, table.nickname? entry.1 = some entry.2

theorem pairwise_sameAs_iff (table : SymbolTable) :
    (table.entries.Pairwise fun a b => a.1.sameAs b.1 = false) ↔ table.known.Nodup := by
  rw [known, List.Nodup, List.pairwise_map]
  simp [TypeRef.sameAs]

/-- Where identities do not repeat, a look-up finds the one entry there is. -/
theorem nickname?_of_mem {table : SymbolTable} (h : table.known.Nodup) {entry : TypeRef × String}
    (hentry : entry ∈ table.entries) : table.nickname? entry.1 = some entry.2 := by
  cases hfind : table.entries.findRev? fun other => other.1.sameAs entry.1 with
  | none =>
    rw [List.findRev?_eq_find?_reverse, List.find?_eq_none] at hfind
    exact absurd (TypeRef.sameAs_iff.2 rfl) (hfind entry (List.mem_reverse.2 hentry))
  | some other =>
    have hfound := hfind
    rw [List.findRev?_eq_find?_reverse] at hfound
    have hother : other ∈ table.entries := List.mem_reverse.1 (List.mem_of_find?_eq_some hfound)
    have hsame := List.find?_some hfound
    have heq : other = entry :=
      List.inj_on_of_nodup_map h hother hentry (TypeRef.sameAs_iff.1 hsame)
    rw [nickname?, hfind, heq]
    rfl

theorem oneEntryPerType_iff {table : SymbolTable} : table.OneEntryPerType ↔ table.known.Nodup := by
  constructor
  · intro h
    exact (pairwise_sameAs_iff table).1 h.distinct
  · intro h
    exact ⟨(pairwise_sameAs_iff table).2 h, fun entry hentry => nickname?_of_mem h hentry⟩

/-- One reservation keeps identities apart exactly when it passes none of them twice. -/
theorem nodup_known_reserve_iff (table : SymbolTable) (t : TypeRef) :
    (table.reserve t).2.known.Nodup ↔
      table.known.Nodup ∧ (t.unmetIdentities table.known).Nodup := by
  rw [known_reserve, List.nodup_append]
  constructor
  · rintro ⟨hknown, hnew, _⟩
    exact ⟨hknown, hnew⟩
  · rintro ⟨hknown, hnew⟩
    refine ⟨hknown, hnew, ?_⟩
    rintro identity hmem other hother rfl
    obtain ⟨u, hu, rfl⟩ := List.mem_map.1 hother
    exact TypeRef.not_mem_of_mem_unmet hu hmem

theorem nodup_known_reserveAll_iff (table : SymbolTable) (types : List TypeRef) :
    (table.reserveAll types).known.Nodup ↔
      table.known.Nodup ∧ TypeRef.Unrepeated table.known types := by
  induction types generalizing table with
  | nil => simp [reserveAll, TypeRef.Unrepeated]
  | cons t rest ih =>
    rw [reserveAll_cons, ih, nodup_known_reserve_iff, known_reserve, TypeRef.Unrepeated, and_assoc]

/-- A fresh table has one entry per type after a sequence of reservations exactly when none of
them passes an identity twice.  References with derived identities alone never do. -/
theorem oneEntryPerType_reserveAll_iff (policy : ImportPolicy) (types : List TypeRef) :
    (((empty policy).reserveAll types).OneEntryPerType ↔ TypeRef.Unrepeated [] types) ∧
      ((∀ t ∈ types, t.Derived) → ((empty policy).reserveAll types).OneEntryPerType) := by
  have hiff : ((empty policy).reserveAll types).OneEntryPerType ↔ TypeRef.Unrepeated [] types := by
    rw [oneEntryPerType_iff, nodup_known_reserveAll_iff]
    have hempty : (empty policy).known = [] := rfl
    rw [hempty]
    exact and_iff_right List.nodup_nil
  refine ⟨hiff, fun hderived => hiff.2 ?_⟩
  exact TypeRef.unrepeated_of_nodup_chain [] fun t ht =>
    TypeRef.nodup_chain_of_derived (hderived t ht)

/-- A collection of collections that takes the identity of its innermost element is recorded
beside it, and a look-up of the element finds the collection. -/
theorem not_oneEntryPerType_shadow :
    let element := TypeRef.leaf .message "a.B"
    let shadow := TypeRef.collection "a.B" (.collection "a.C" element)
    let table := (empty (.java none)).reserveAll [shadow]
    shadow.Obtainable ∧ ¬ table.OneEntryPerType ∧ (element, "B") ∈ table.entries ∧
      table.nickname? element = some "List<List<B>>" := by
  intro element shadow table
  have hread : TypeRef.read .direct shadow.toJson = .ok shadow := rfl
  have hentry : (element, "B") ∈ table.entries := by decide +kernel
  have hfound : table.nickname? element = some "List<List<B>>" := by decide +kernel
  refine ⟨.read hread, ?_, hentry, hfound⟩
  intro h
  have hlookup := h.lookup _ hentry
  rw [hfound] at hlookup
  exact absurd hlookup (by decide)

end SymbolTable

end SampleForge
