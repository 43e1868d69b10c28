import Mathlib.Data.List.Nodup
import SampleForge.Proofs.SymbolTable.FreeName
import SampleForge.Proofs.SymbolTable.History

/-!
# Nicknames are told apart

A reservation gives a new type a name that is not in use, whatever its element has taken in the
meantime.  So no two entries of a table ever have one nickname (`nodup_taken_run`), and two types
with one nickname are the same (`sameAs_of_nickname`).

The names in use are read off the entries each time.  An `IndexedTable` keeps them in a set and
keeps the place of the last entry of each type in an index.  It gives the same nicknames, and what
it keeps agrees with the entries along every history (`IndexedTable.Sound.run`).
-/

namespace SampleForge

namespace SymbolTable

/-! ## Entries -/

theorem nodup_taken_record {table : SymbolTable} {nickname : String} (h : table.taken.Nodup)
    (hfree : nickname ∉ table.taken) (t : TypeRef) : (table.record t nickname).taken.Nodup := by
  rw [taken_record, ← List.concat_eq_append]
  exact h.concat hfree

/-- A reservation takes names that are not in use. -/
theorem Reserves.nodup_taken {table after : SymbolTable} {t : TypeRef} {nickname : String}
    (h : Reserves table t nickname after) (hnodup : table.taken.Nodup) : after.taken.Nodup := by
  induction h with
  | known _ => exact hnodup
  | leaf _ hname =>
    exact nodup_taken_record hnodup (hname ▸ leafName_not_mem _ _ _ _) _
  | collection _ _ hname ih =>
    exact nodup_taken_record ih (hname ▸ freeName_not_mem _ _) _

theorem nodup_taken_reserve {table : SymbolTable} (h : table.taken.Nodup) (t : TypeRef) :
    (table.reserve t).2.taken.Nodup :=
  (reserves_assign { table with requests := table.requests + 1 } t).nodup_taken h

theorem nodup_taken_reserveAll {table : SymbolTable} (h : table.taken.Nodup)
    (types : List TypeRef) : (table.reserveAll types).taken.Nodup := by
  induction types generalizing table with
  | nil => exact h
  | cons t rest ih => exact ih (nodup_taken_reserve h t)

theorem nodup_taken_run (policy : ImportPolicy) (calls : List Call) :
    ((empty policy).run calls).taken.Nodup := by
  have hempty : (empty policy).taken.Nodup := List.nodup_nil
  rw [run_eq]
  exact nodup_taken_reserveAll hempty _

theorem mem_entries_of_nickname {table : SymbolTable} {t : TypeRef} {nickname : String}
    (h : table.nickname? t = some nickname) :
    ∃ entry ∈ table.entries, entry.1.identity = t.identity ∧ entry.2 = nickname := by
  obtain ⟨entry, hfind, hnickname⟩ := Option.map_eq_some_iff.1 h
  rw [List.findRev?_eq_find?_reverse] at hfind
  have hsame := List.find?_some hfind
  exact ⟨entry, List.mem_reverse.1 (List.mem_of_find?_eq_some hfind), TypeRef.sameAs_iff.1 hsame,
    hnickname⟩

/-- Two types with one nickname are the same. -/
theorem sameAs_of_nickname {table : SymbolTable} (h : table.taken.Nodup) {t u : TypeRef}
    {nickname : String} (ht : table.nickname? t = some nickname)
    (hu : table.nickname? u = some nickname) : t.sameAs u = true := by
  obtain ⟨entry, hentry, hidentity, hnickname⟩ := mem_entries_of_nickname ht
  obtain ⟨other, hother, hidentity', hnickname'⟩ := mem_entries_of_nickname hu
  have hsame : entry = other :=
    List.inj_on_of_nodup_map h hentry hother (hnickname.trans hnickname'.symm)
  subst hsame
  exact TypeRef.sameAs_iff.2 (hidentity.symm.trans hidentity')

end SymbolTable

/-! ## Tables with an index -/

/-- A table with an index of its types and a set of the names in use beside its entries. -/
structure IndexedTable where
  /-- The table. -/
  table : SymbolTable
  /-- The place of the last entry of each identity. -/
  index : KeyMap Nat := ∅
  /-- The names in use. -/
  taken : NameSet := ∅

namespace IndexedTable

/-- The indexed table with nothing in it. -/
def empty (policy : ImportPolicy) : IndexedTable := { table := .empty policy }

/-- The nickname that the index leads to. -/
def nickname? (indexed : IndexedTable) (t : TypeRef) : Option String :=
  (indexed.index.get? t.identity).bind fun place => indexed.table.entries[place]?.map (·.2)

/-- The indexed table with a new entry. -/
def record (indexed : IndexedTable) (t : TypeRef) (nickname : String) : IndexedTable where
  table := indexed.table.record t nickname
  index := indexed.index.insert t.identity indexed.table.entries.length
  taken := indexed.taken.insert nickname

/-- Gives a type its nickname, without counting the request. -/
def assign (indexed : IndexedTable) (t : TypeRef) : String × IndexedTable :=
  match indexed.nickname? t with
  | some nickname => (nickname, indexed)
  | none =>
      match t with
      | .leaf _ _ =>
          let nickname := leafName t.segments indexed.taken.toList 1 t.segments.length
          (nickname, indexed.record t nickname)
      | .collection _ element =>
          let (elementName, indexed) := indexed.assign element
          let nickname :=
            freeName (indexed.table.policy.collectionNickname elementName) indexed.taken.toList
          (nickname, indexed.record t nickname)

/-- Gives a type its nickname. -/
def reserve (indexed : IndexedTable) (t : TypeRef) : String × IndexedTable :=
  let table := indexed.table
  { indexed with table := { table with requests := table.requests + 1 } }.assign t

/-- The indexed table after several reservations. -/
def reserveAll (indexed : IndexedTable) (types : List TypeRef) : IndexedTable :=
  types.foldl (fun indexed t => (indexed.reserve t).2) indexed

/-- The indexed table after a call: the types of the call are reserved and its statements added. -/
def after (indexed : IndexedTable) (call : SymbolTable.Call) : IndexedTable :=
  let reserved := indexed.reserveAll call.types
  { reserved with table := reserved.table.addImports call.statements }

/-- The indexed table after several calls. -/
def run (indexed : IndexedTable) (calls : List SymbolTable.Call) : IndexedTable :=
  calls.foldl after indexed

/-- What is kept beside the entries agrees with them. -/
structure Sound (indexed : IndexedTable) : Prop where
  /-- The names in use are those of the entries. -/
  taken : ∀ name, name ∈ indexed.taken ↔ name ∈ indexed.table.taken
  /-- The index leads to entries. -/
  inRange : ∀ identity place, indexed.index.get? identity = some place →
    place < indexed.table.entries.length
  /-- They are the ones that a look-up finds. -/
  lookup : ∀ t, indexed.nickname? t = indexed.table.nickname? t

theorem sound_empty (policy : ImportPolicy) : (empty policy).Sound where
  taken := fun _ => Iff.rfl
  inRange := fun _ _ h => by cases h
  lookup := fun _ => rfl

/-- A new entry is counted and indexed in step with the entries. -/
theorem Sound.record {indexed : IndexedTable} (h : indexed.Sound) (t : TypeRef)
    (nickname : String) : (indexed.record t nickname).Sound where
  taken := by
    intro name
    rw [IndexedTable.record, NameSet.mem_insert, SymbolTable.taken_record, List.mem_append,
      List.mem_singleton, h.taken, or_comm]
  inRange := by
    intro identity place hplace
    have hlength : (indexed.record t nickname).table.entries.length =
        indexed.table.entries.length + 1 := by
      simp [IndexedTable.record, SymbolTable.record]
    rw [hlength]
    by_cases hidentity : identity = t.identity
    · subst hidentity
      rw [IndexedTable.record, KeyMap.get?_insert_self, Option.some.injEq] at hplace
      exact hplace ▸ Nat.lt_succ_self _
    · rw [IndexedTable.record, KeyMap.get?_insert_of_ne _ _ hidentity] at hplace
      exact Nat.lt_succ_of_lt (h.inRange identity place hplace)
  lookup := by
    intro u
    by_cases hidentity : t.identity = u.identity
    · rw [IndexedTable.record, SymbolTable.nickname?_record_self _ _ hidentity,
        IndexedTable.nickname?, hidentity, KeyMap.get?_insert_self]
      simp [SymbolTable.record]
    · rw [IndexedTable.record, SymbolTable.nickname?_record_of_ne _ _ hidentity, ← h.lookup,
        IndexedTable.nickname?, IndexedTable.nickname?,
        KeyMap.get?_insert_of_ne _ _ (Ne.symm hidentity)]
      cases hplace : indexed.index.get? u.identity with
      | none => rfl
      | some place =>
        rw [Option.bind_some, Option.bind_some, SymbolTable.record,
          List.getElem?_append_left (h.inRange _ _ hplace)]

/-- A reservation by way of the index gives the same nickname and the same table. -/
theorem Sound.assign {indexed : IndexedTable} (h : indexed.Sound) (t : TypeRef) :
    (indexed.assign t).1 = (indexed.table.assign t).1 ∧
      (indexed.assign t).2.table = (indexed.table.assign t).2 ∧ (indexed.assign t).2.Sound := by
  induction t with
  | leaf kind identity =>
    rw [IndexedTable.assign, SymbolTable.assign, h.lookup]
    cases indexed.table.nickname? (.leaf kind identity) with
    | some nickname => exact ⟨rfl, rfl, h⟩
    | none =>
      simp only [leafName_congr h.taken]
      exact ⟨trivial, rfl, h.record _ _⟩
  | collection identity element ih =>
    obtain ⟨hname, htable, hsound⟩ := ih
    rw [IndexedTable.assign, SymbolTable.assign, h.lookup]
    cases indexed.table.nickname? (.collection identity element) with
    | some nickname => exact ⟨rfl, rfl, h⟩
    | none =>
      simp only [freeName_congr hsound.taken, hname]
      refine ⟨?_, ?_, hsound.record _ _⟩
      · rw [htable]
      · rw [IndexedTable.record, htable]

/-! ### Histories -/

theorem Sound.reserve {indexed : IndexedTable} (h : indexed.Sound) (t : TypeRef) :
    (indexed.reserve t).1 = (indexed.table.reserve t).1 ∧
      (indexed.reserve t).2.table = (indexed.table.reserve t).2 ∧
      (indexed.reserve t).2.Sound := by
  have hcounted : ({ indexed with table := { indexed.table with
      requests := indexed.table.requests + 1 } } : IndexedTable).Sound :=
    ⟨h.taken, h.inRange, h.lookup⟩
  exact hcounted.assign t

theorem Sound.reserveAll {indexed : IndexedTable} (h : indexed.Sound) (types : List TypeRef) :
    (indexed.reserveAll types).table = indexed.table.reserveAll types ∧
      (indexed.reserveAll types).Sound := by
  induction types generalizing indexed with
  | nil => exact ⟨rfl, h⟩
  | cons t rest ih =>
    obtain ⟨_, htable, hsound⟩ := h.reserve t
    rw [SymbolTable.reserveAll_cons, ← htable]
    exact ih hsound

theorem Sound.after {indexed : IndexedTable} (h : indexed.Sound) (call : SymbolTable.Call) :
    (indexed.after call).table = indexed.table.after call ∧ (indexed.after call).Sound := by
  obtain ⟨htable, hsound⟩ := h.reserveAll call.types
  rw [IndexedTable.after, SymbolTable.after_eq, ← htable, SymbolTable.addImports_eq_plus]
  exact ⟨rfl, hsound.taken, hsound.inRange, hsound.lookup⟩

/-- An index and a set of names, kept along a history, stay in step with the table. -/
theorem Sound.run {indexed : IndexedTable} (h : indexed.Sound) (calls : List SymbolTable.Call) :
    (indexed.run calls).table = indexed.table.run calls ∧ (indexed.run calls).Sound := by
  induction calls generalizing indexed with
  | nil => exact ⟨rfl, h⟩
  | cons call calls ih =>
    obtain ⟨htable, hsound⟩ := h.after call
    rw [SymbolTable.run_cons, ← htable]
    exact ih hsound

end IndexedTable

namespace SymbolTable

/-- After any history of a fresh table no two entries have one nickname, two types with one nickname
are the same, and a set of the names in use that is kept along the way holds the nicknames of the
entries and nothing else. -/
theorem run_nicknames_distinct (policy : ImportPolicy) (calls : List Call) :
    let table := (empty policy).run calls
    let indexed := (IndexedTable.empty policy).run calls
    table.entries.Pairwise (fun a b => a.2 ≠ b.2) ∧
      (∀ t u nickname, table.nickname? t = some nickname → table.nickname? u = some nickname →
        t.sameAs u = true) ∧
      indexed.table = table ∧
      ∀ name, name ∈ indexed.taken ↔ ∃ entry ∈ table.entries, entry.2 = name := by
  intro table indexed
  have hnodup : table.taken.Nodup := nodup_taken_run policy calls
  obtain ⟨htable, hsound⟩ := (IndexedTable.sound_empty policy).run calls
  refine ⟨List.pairwise_map.1 hnodup, fun _ _ _ => sameAs_of_nickname hnodup, htable, ?_⟩
  intro name
  have htaken : indexed.table.taken = table.taken := congrArg taken htable
  rw [hsound.taken, htaken]
  exact List.mem_map

example :
    ((empty (.java none)).run
      [.reserve (.leaf .message "x.Book"), .reserve (.leaf .message "a.Book"),
        .addImport "import z;", .collect (.java none) [.define "b" (.leaf .message "a_Book"),
          .define "l" (.collection "Books" (.leaf .message "x.Book"))]]).taken =
      ["Book", "a_Book", "a_Book2", "List<Book>"] := by
  decide +kernel

end SymbolTable

end SampleForge
