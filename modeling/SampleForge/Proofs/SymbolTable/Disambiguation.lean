import SampleForge.Proofs.SymbolTable.Closure
import SampleForge.Proofs.SymbolTable.Nicknames
import SampleForge.Proofs.SymbolTable.Permanence

/-!
# How a new type is named

The rule for the nickname of a new type, told without the search that finds it.

* A leaf takes the join of its last segments, of as few as make it free (`IsLeafName`).
* A collection takes what the policy makes of the nickname of its element (`IsWrapped`).
* Where no such name is free, the last of them takes a number, the least one from 2 up that makes it
  free (`IsNumbered`).

Each rule holds of exactly one name, and this is the name that a reservation gives
(`leafName_eq_iff`, `freeName_eq_iff`).

A reservation records the part of the element chain that is not known, the innermost type first.  It
ends at the first type that is known (`TypeRef.chain_eq_unmet`).  Where one identity means one type,
whatever follows in the chain is known as well.
-/

namespace SampleForge

open Text (joinWith split)

/-! ## The rules -/

/-- A name is a base with the least number from 2 up that makes it free. -/
def IsNumbered (base : String) (names : List String) (name : String) : Prop :=
  ∃ n, 2 ≤ n ∧ name = base ++ n.repr ∧ name ∉ names ∧
    ∀ m, 2 ≤ m → m < n → base ++ m.repr ∈ names

/-- A name is right for a new leaf with some segments, given the names in use. -/
inductive IsLeafName (segments names : List String) : String → Prop where
  /-- The join of the last segments, of as few as make it free. -/
  | joined {j : Nat} : 1 ≤ j → j ≤ segments.length → joinLast j segments ∉ names →
      (∀ i, 1 ≤ i → i < j → joinLast i segments ∈ names) →
      IsLeafName segments names (joinLast j segments)
  /-- The join of all segments with a number, if no join is free. -/
  | numbered {name : String} :
      (∀ j, 1 ≤ j → j ≤ segments.length → joinLast j segments ∈ names) →
      IsNumbered (joinWith "_" segments) names name → IsLeafName segments names name

/-- A name is right for a new collection, given what the policy makes of the nickname of its element
and the names in use. -/
inductive IsWrapped (wrapped : String) (names : List String) : String → Prop where
  /-- The name that the policy makes, if it is free. -/
  | free : wrapped ∉ names → IsWrapped wrapped names wrapped
  /-- This name with a number, if it is not. -/
  | numbered {name : String} : wrapped ∈ names → IsNumbered wrapped names name →
      IsWrapped wrapped names name

section Rules

variable {base wrapped name other : String} {segments names : List String}

theorem IsNumbered.unique (h : IsNumbered base names name) (h' : IsNumbered base names other) :
    name = other := by
  obtain ⟨n, hn, rfl, hfree, hleast⟩ := h
  obtain ⟨k, hk, rfl, hfree', hleast'⟩ := h'
  rcases Nat.lt_trichotomy n k with hlt | rfl | hlt
  · exact absurd (hleast' n hn hlt) hfree
  · rfl
  · exact absurd (hleast k hk hlt) hfree'

theorem IsLeafName.unique (h : IsLeafName segments names name)
    (h' : IsLeafName segments names other) : name = other := by
  cases h with
  | @joined j hj hlength hfree hleast =>
    cases h' with
    | @joined k hk hlength' hfree' hleast' =>
      rcases Nat.lt_trichotomy j k with hlt | rfl | hlt
      · exact absurd (hleast' j hj hlt) hfree
      · rfl
      · exact absurd (hleast k hk hlt) hfree'
    | numbered hall _ => exact absurd (hall j hj hlength) hfree
  | numbered hall hname =>
    cases h' with
    | @joined k hk hlength' hfree' _ => exact absurd (hall k hk hlength') hfree'
    | numbered _ hother => exact hname.unique hother

theorem IsWrapped.unique (h : IsWrapped wrapped names name) (h' : IsWrapped wrapped names other) :
    name = other := by
  cases h with
  | free hfree =>
    cases h' with
    | free _ => rfl
    | numbered htaken _ => exact absurd htaken hfree
  | numbered htaken hname =>
    cases h' with
    | free hfree => exact absurd htaken hfree
    | numbered _ hother => exact hname.unique hother

theorem isNumbered_firstFree (base : String) (names : List String) :
    IsNumbered base names (firstFree base 2 names) := by
  obtain ⟨n, hn, heq, hfree, hleast⟩ := firstFree_eq base 2 names
  exact ⟨n, hn, heq, heq ▸ hfree, hleast⟩

theorem isWrapped_freeName (wrapped : String) (names : List String) :
    IsWrapped wrapped names (freeName wrapped names) := by
  rw [freeName]
  split
  · rename_i htaken
    exact .numbered htaken (isNumbered_firstFree wrapped names)
  · rename_i hfree
    exact .free hfree

/-- The search for the name of a leaf, once the joins of fewer than `n` segments are known to be in
use. -/
theorem isLeafName_from {n more : Nat} (hn : 1 ≤ n) (hlength : segments.length + 1 = n + more)
    (hbefore : ∀ i, 1 ≤ i → i < n → joinLast i segments ∈ names) :
    IsLeafName segments names (leafName segments names n more) := by
  induction more generalizing n with
  | zero =>
    refine .numbered (fun j hj hle => hbefore j hj ?_) (isNumbered_firstFree _ names)
    omega
  | succ more ih =>
    rw [leafName]
    split
    · rename_i htaken
      refine ih (Nat.le_succ_of_le hn) (by omega) fun i hi hlt => ?_
      rcases Nat.lt_or_eq_of_le (Nat.le_of_lt_succ hlt) with hlt | rfl
      · exact hbefore i hi hlt
      · exact htaken
    · rename_i hfree
      exact .joined hn (by omega) hfree hbefore

/-- A new leaf is given the name that is right for it. -/
theorem leafName_eq_iff :
    leafName segments names 1 segments.length = name ↔ IsLeafName segments names name := by
  have hright : IsLeafName segments names (leafName segments names 1 segments.length) := by
    refine isLeafName_from (Nat.le_refl 1) (Nat.add_comm _ _) fun i hi hlt => ?_
    exact absurd hlt (Nat.not_lt.2 hi)
  constructor
  · rintro rfl
    exact hright
  · exact hright.unique

/-- A new collection is given the name that is right for it. -/
theorem freeName_eq_iff : freeName wrapped names = name ↔ IsWrapped wrapped names name := by
  constructor
  · rintro rfl
    exact isWrapped_freeName wrapped names
  · exact (isWrapped_freeName wrapped names).unique

end Rules

/-! ## The part of a chain that is recorded -/

/-- A chain ends with what a reservation records.  What comes before it is the chain of a known
type. -/
theorem TypeRef.chain_eq_unmet (met : List String) (t : TypeRef) :
    ∃ below, t.chain = below ++ t.unmet met ∧
      (below = [] ∨ ∃ u : TypeRef, u.identity ∈ met ∧ below = u.chain) := by
  induction t with
  | leaf kind identity =>
    by_cases hmet : identity ∈ met
    · refine ⟨_, ?_, .inr ⟨leaf kind identity, hmet, rfl⟩⟩
      rw [unmet, if_pos hmet, List.append_nil]
    · refine ⟨[], ?_, .inl rfl⟩
      rw [unmet, if_neg hmet, chain, List.nil_append]
  | collection identity element ih =>
    by_cases hmet : identity ∈ met
    · refine ⟨_, ?_, .inr ⟨collection identity element, hmet, rfl⟩⟩
      rw [unmet, if_pos hmet, List.append_nil]
    · obtain ⟨below, hchain, hbelow⟩ := ih
      refine ⟨below, ?_, hbelow⟩
      rw [unmet, if_neg hmet, chain, hchain, List.append_assoc]

namespace SymbolTable

open TypeRef (Consistent Reached)

theorem Closed.mem_of_mem_chain {given : List TypeRef} {table : SymbolTable}
    (h : Closed given table) {t : TypeRef} (ht : t ∈ table.types) :
    ∀ u ∈ t.chain, u ∈ table.types := by
  induction t with
  | leaf kind identity =>
    intro u hu
    rw [List.mem_singleton.1 hu]
    exact ht
  | collection identity element ih =>
    intro u hu
    rcases List.mem_append.1 hu with hu | hu
    · exact ih (h.element _ ht element rfl) u hu
    · rw [List.mem_singleton.1 hu]
      exact ht

/-- Where one identity means one type, every history leaves a closed table. -/
theorem closed_run {given : List TypeRef} (hconsistent : Consistent given)
    (policy : ImportPolicy) {calls : List Call}
    (hgiven : ∀ t ∈ calls.flatMap Call.types, t ∈ given) :
    Closed given ((empty policy).run calls) := by
  have hempty : Closed given (empty policy) := by
    constructor
    · rintro _ ⟨⟩
    · rintro _ ⟨⟩
  obtain ⟨⟨hreached, helement⟩, _⟩ :=
    hempty.reserveAll hconsistent fun t ht => .given (hgiven t ht)
  rw [run_eq]
  exact ⟨hreached, helement⟩

/-! ## Reservations of new types -/

section New

variable {table : SymbolTable}

theorem reserve_leaf {kind : LeafKind} {identity : String}
    (hnew : (TypeRef.leaf kind identity).identity ∉ table.known) :
    table.reserve (.leaf kind identity) =
      let name := leafName (split '.' identity) table.taken 1 (split '.' identity).length
      (name, { table with requests := table.requests + 1 }.record (.leaf kind identity) name) := by
  have hnone : ({ table with requests := table.requests + 1 } : SymbolTable).nickname?
      (.leaf kind identity) = none := nickname?_eq_none.2 hnew
  rw [reserve, assign, hnone]
  rfl

/-- A new collection is recorded after its element has been reserved. -/
theorem reserve_collection {identity : String} {element : TypeRef}
    (hnew : (TypeRef.collection identity element).identity ∉ table.known) :
    table.reserve (.collection identity element) =
      let name := freeName (table.policy.collectionNickname (table.reserve element).1)
        (table.reserve element).2.taken
      (name, (table.reserve element).2.record (.collection identity element) name) := by
  have hnone : ({ table with requests := table.requests + 1 } : SymbolTable).nickname?
      (.collection identity element) = none := nickname?_eq_none.2 hnew
  rw [← policy_reserve table element]
  conv_lhs => rw [reserve, assign, hnone]
  rfl

/-- The last entry of a reservation is that of the type itself. -/
theorem entries_reserve {t : TypeRef} (hnew : t.identity ∉ table.known) :
    ∃ new, (table.reserve t).2.entries = table.entries ++ new ∧
      new.map (·.1) = t.unmet table.known ∧ new.getLast? = some (t, (table.reserve t).1) := by
  obtain ⟨new, hentries⟩ := (keeps_reserve table t).entries
  have htypes := types_reserve table t
  rw [types, types, ← hentries, List.map_append] at htypes
  refine ⟨new, hentries.symm, List.append_cancel_left htypes, ?_⟩
  have hlast : (table.reserve t).2.entries.getLast? = some (t, (table.reserve t).1) := by
    cases t with
    | leaf kind identity =>
      rw [reserve_leaf hnew]
      exact List.getLast?_concat
    | collection identity element =>
      rw [reserve_collection hnew]
      exact List.getLast?_concat
  have hsome : new ≠ [] := by
    rintro rfl
    have hunmet := List.append_cancel_left htypes
    have hself := TypeRef.self_mem_unmet hnew
    rw [← hunmet] at hself
    cases hself
  rw [← hlast, ← hentries, List.getLast?_append_of_ne_nil _ hsome]

end New

theorem policy_run (policy : ImportPolicy) (calls : List Call) :
    ((empty policy).run calls).policy = policy := by
  rw [run_eq]
  exact policy_reserveAll (empty policy) _

/-- Whatever the history of a table, a new type is named by the rules.  A leaf takes the shortest
free join of its last segments, or the join of all with the least free number.  A collection takes
what the policy makes of the nickname that the reservation of its element gives, or that with the
least free number.  A table that keeps its names in a set gives the same nickname.

What is recorded is the part of the element chain above the chain of a known type, if there is one,
and the type itself comes last.  Where one identity means one type, the types of that chain are
known too. -/
theorem reserve_new (policy : ImportPolicy) (calls : List Call) {t : TypeRef}
    (hnew : t.identity ∉ ((empty policy).run calls).known) :
    let table := (empty policy).run calls
    (∀ kind identity, t = .leaf kind identity → ∀ name,
        (table.reserve t).1 = name ↔ IsLeafName (split '.' identity) table.taken name) ∧
      (∀ identity element, t = .collection identity element →
        (table.reserve t).2.entries =
            (table.reserve element).2.entries ++ [(t, (table.reserve t).1)] ∧
          ∀ name, (table.reserve t).1 = name ↔
            IsWrapped (policy.collectionNickname (table.reserve element).1)
              (table.reserve element).2.taken name) ∧
      (((IndexedTable.empty policy).run calls).reserve t).1 = (table.reserve t).1 ∧
      ∃ below new, t.chain = below ++ new.map (·.1) ∧
        (table.reserve t).2.entries = table.entries ++ new ∧
        new.getLast? = some (t, (table.reserve t).1) ∧
        (∀ entry ∈ new, entry.1.identity ∉ table.known) ∧
        (below = [] ∨ ∃ u : TypeRef, u.identity ∈ table.known ∧ below = u.chain) ∧
        (Consistent (t :: calls.flatMap Call.types) → ∀ u ∈ below, u.identity ∈ table.known) := by
  intro table
  refine ⟨?_, ?_, ?_, ?_⟩
  · rintro kind identity rfl name
    rw [reserve_leaf hnew]
    exact leafName_eq_iff
  · rintro identity element rfl
    rw [reserve_collection hnew, policy_run]
    exact ⟨rfl, fun name => freeName_eq_iff⟩
  · obtain ⟨htable, hsound⟩ := (IndexedTable.sound_empty policy).run calls
    rw [(hsound.reserve t).1, htable]
    rfl
  · obtain ⟨new, hentries, htypes, hlast⟩ := entries_reserve hnew
    obtain ⟨below, hchain, hbelow⟩ := t.chain_eq_unmet table.known
    refine ⟨below, new, htypes ▸ hchain, hentries, hlast, ?_, hbelow, ?_⟩
    · intro entry hentry
      exact TypeRef.not_mem_of_mem_unmet (htypes ▸ List.mem_map_of_mem hentry)
    · intro hconsistent
      have hclosed : Closed (t :: calls.flatMap Call.types) table :=
        closed_run hconsistent policy fun u hu => List.mem_cons_of_mem t hu
      rcases hbelow with rfl | ⟨u, hknown, rfl⟩
      · rintro _ ⟨⟩
      · have hu : u ∈ t.chain := hchain ▸ List.mem_append_left _ u.self_mem_chain
        have hmem : u ∈ table.types := hclosed.mem_of_known hconsistent
          ((Reached.given List.mem_cons_self).of_mem_chain hu) hknown
        intro v hv
        exact mem_known.2 ⟨v, hclosed.mem_of_mem_chain hmem v hv, rfl⟩

/-- A list of books, where both names of the book are in use. -/
theorem reserve_new_books :
    let calls := [Call.reserve (.leaf .message "a.Book"), .reserve (.leaf .message "b_Book")]
    let table := (empty (.java none)).run calls
    let book := TypeRef.leaf .message "b.Book"
    let books := TypeRef.collection "b.Books" book
    book.identity ∉ table.known ∧ books.identity ∉ table.known ∧
      IsLeafName ["b", "Book"] table.taken "b_Book2" ∧
      IsWrapped "List<b_Book2>" (table.reserve book).2.taken "List<b_Book2>" ∧
      (table.reserve books).1 = "List<b_Book2>" := by
  intro calls table book books
  have hbook : book.identity ∉ table.known := by decide +kernel
  have hbooks : books.identity ∉ table.known := by decide +kernel
  have hname : (table.reserve book).1 = "b_Book2" := by decide +kernel
  have hwrapped : (table.reserve books).1 = "List<b_Book2>" := by decide +kernel
  obtain ⟨hleaf, _⟩ := reserve_new (.java none) calls hbook
  obtain ⟨_, hcollection, _⟩ := reserve_new (.java none) calls hbooks
  refine ⟨hbook, hbooks, (hleaf .message "b.Book" rfl _).1 hname, ?_, hwrapped⟩
  have hrule := ((hcollection "b.Books" book rfl).2 _).1 hwrapped
  rwa [hname] at hrule

end SymbolTable

end SampleForge
