import Mathlib
import SampleForge.Proofs.SymbolTable.FreeName
import SampleForge.Proofs.SymbolTable.Reservation

/-!
# The search for a number ends

`firstFree` drops each name that it has met, and so it plainly ends.  A `Search` does not: it tries
one number of 64 bits after another, keeps the names in use as they are, and stops at a free name
or behind the greatest number.

The numbers that it passes stand for as many names in use (`card_of_taken`).  So it ends after one
round more than there are names, with the name that `firstFree` gives, unless all numbers are used
up (`exists_rounds`).

A reservation makes one such search for each new type of an element chain, and the names of the
elements are in use by then.  They do not prolong the search, since they are shorter than any name
that it tries (`Reserves.mem_taken`).  Only the entries that were there before the reservation
count.
-/

namespace SampleForge

open Text (joinWith)

/-! ## Searches -/

/-- A search for a free number, where numbers have 64 bits. -/
inductive Search where
  /-- A number is tried next. -/
  | trying (number : UInt64)
  /-- A free name is found. -/
  | found (name : String)
  /-- The number that comes next has more than 64 bits. -/
  | overflow
  deriving DecidableEq

namespace Search

/-- Tries one number. -/
def step (base : String) (names : List String) : Search → Search
  | .trying number =>
      let candidate := base ++ number.toNat.repr
      if candidate ∉ names then .found candidate
      else if number.toNat + 1 < UInt64.size then .trying (number + 1)
      else .overflow
  | .found name => .found name
  | .overflow => .overflow

/-- A search from 2 up after some rounds. -/
def after (base : String) (names : List String) (rounds : Nat) : Search :=
  (step base names)^[rounds] (.trying 2)

/-- The name that a search finds within some rounds. -/
def within (base : String) (names : List String) (rounds : Nat) : Option String :=
  match after base names rounds with
  | .found name => some name
  | _ => none

section Rounds

variable {base : String} {names : List String}

theorem after_succ (rounds : Nat) :
    after base names (rounds + 1) = step base names (after base names rounds) :=
  Function.iterate_succ_apply' _ _ _

theorem step_of_free {n : Nat} (hn : n < UInt64.size) (hfree : base ++ n.repr ∉ names) :
    step base names (.trying (.ofNat n)) = .found (base ++ n.repr) := by
  rw [step, UInt64.toNat_ofNat_of_lt' hn]
  exact if_pos hfree

theorem step_of_taken {n : Nat} (hn : n < UInt64.size) (htaken : base ++ n.repr ∈ names) :
    step base names (.trying (.ofNat n)) =
      if n + 1 < UInt64.size then .trying (.ofNat (n + 1)) else .overflow := by
  rw [step, UInt64.toNat_ofNat_of_lt' hn, UInt64.ofNat_add]
  exact if_neg (not_not_intro htaken)

/-- A search passes the numbers whose names are in use. -/
theorem after_of_taken {rounds : Nat} (hsize : 2 + rounds < UInt64.size)
    (htaken : ∀ n, 2 ≤ n → n < 2 + rounds → base ++ n.repr ∈ names) :
    after base names rounds = .trying (.ofNat (2 + rounds)) := by
  induction rounds with
  | zero => rfl
  | succ rounds ih =>
    have hbefore : after base names rounds = .trying (.ofNat (2 + rounds)) :=
      ih (by omega) fun n hn hlt => htaken n hn (by omega)
    rw [after_succ, hbefore, step_of_taken (by omega) (htaken _ (by omega) (by omega)),
      if_pos (by omega), Nat.add_assoc]

/-- A search that has found a name keeps it. -/
theorem after_of_found {rounds later : Nat} {name : String} (hle : rounds ≤ later)
    (h : after base names rounds = .found name) : after base names later = .found name := by
  induction later, hle using Nat.le_induction with
  | base => exact h
  | succ later _ ih => rw [after_succ, ih, step]

/-- Numbers whose names are in use are no more than the names. -/
theorem card_of_taken {first last : Nat}
    (htaken : ∀ n, first ≤ n → n < last → base ++ n.repr ∈ names) :
    last - first ≤ names.toFinset.card := by
  have hinj : Function.Injective fun n : Nat => base ++ n.repr := fun _ _ => numbered_inj.1
  have hsub : (Finset.Ico first last).image (fun n => base ++ n.repr) ⊆ names.toFinset := by
    rw [Finset.image_subset_iff]
    intro n hn
    obtain ⟨hfirst, hlast⟩ := Finset.mem_Ico.1 hn
    exact List.mem_toFinset.2 (htaken n hfirst hlast)
  have hcard := Finset.card_le_card hsub
  rwa [Finset.card_image_of_injective _ hinj, Nat.card_Ico] at hcard

/-- A search tries the numbers from 2 up.  It ends after one round more than there are names that
it can meet, with the name that the least free number gives, or it has used up all numbers. -/
theorem exists_rounds {others : List String}
    (hmeets : ∀ n : Nat, base ++ n.repr ∈ names → base ++ n.repr ∈ others) :
    ∃ rounds, rounds ≤ others.toFinset.card + 1 ∧
      (∀ n < rounds, after base names n = .trying (.ofNat (2 + n))) ∧
      (after base names rounds = .found (firstFree base 2 names) ∨
        after base names rounds = .overflow ∧ UInt64.size - 2 ≤ others.toFinset.card) := by
  obtain ⟨k, hk, heq, hfree, hleast⟩ := firstFree_eq base 2 names
  have hbefore (n : Nat) (hsize : 2 + n < UInt64.size) (hn : 2 + n ≤ k) :
      after base names n = .trying (.ofNat (2 + n)) :=
    after_of_taken hsize fun m hm hlt => hleast m hm (by omega)
  by_cases hsize : k < UInt64.size
  · obtain ⟨rounds, rfl⟩ := Nat.exists_eq_add_of_le hk
    have hcard := card_of_taken fun n hn hlt => hmeets n (hleast n hn hlt)
    refine ⟨rounds + 1, by omega, fun n hn => hbefore n (by omega) (by omega), .inl ?_⟩
    rw [after_succ, hbefore rounds hsize (Nat.le_refl _), step_of_free hsize hfree, heq]
  · -- All numbers are taken, and the greatest of them is tried last.
    have htaken (n : Nat) (hn : 2 ≤ n) (hlt : n < UInt64.size) : base ++ n.repr ∈ names :=
      hleast n hn (by omega)
    have hcard := card_of_taken fun n hn hlt => hmeets n (htaken n hn hlt)
    have hlast : 2 + (UInt64.size - 3) = UInt64.size - 1 := rfl
    refine ⟨UInt64.size - 3 + 1, by omega, fun n hn => hbefore n (by omega) (by omega), .inr ?_⟩
    refine ⟨?_, hcard⟩
    rw [after_succ, hbefore _ (by omega) (by omega), hlast,
      step_of_taken (by omega) (htaken _ (by omega) (by omega)), if_neg (by omega)]

/-- A search has found its name after more rounds than there are names that it can meet. -/
theorem within_eq {others : List String}
    (hmeets : ∀ n : Nat, base ++ n.repr ∈ names → base ++ n.repr ∈ others) {rounds : Nat}
    (hrounds : others.length < rounds) (hsize : others.length < UInt64.size - 2) :
    within base names rounds = some (firstFree base 2 names) := by
  have hcard : others.toFinset.card ≤ others.length := List.toFinset_card_le others
  obtain ⟨last, hlast, _, hfound | ⟨_, hoverflow⟩⟩ := exists_rounds hmeets
  · rw [within, after_of_found (by omega) hfound]
  · omega

end Rounds

end Search

/-! ## Reservations that search -/

/-- The first free candidate of a leaf, if a search for a number gets as many rounds. -/
def leafNameWithin (rounds : Nat) (segments names : List String) (n : Nat) : Nat → Option String
  | 0 => Search.within (joinWith "_" segments) names rounds
  | more + 1 =>
      let candidate := joinLast n segments
      if candidate ∈ names then leafNameWithin rounds segments names (n + 1) more
      else some candidate

/-- A name, or a numbered one if a search for the number gets as many rounds. -/
def freeNameWithin (rounds : Nat) (base : String) (names : List String) : Option String :=
  if base ∈ names then Search.within base names rounds else some base

namespace SymbolTable

/-- Gives a type its nickname, if each search for a number gets as many rounds. -/
def assignWithin (rounds : Nat) (table : SymbolTable) (t : TypeRef) :
    Option (String × SymbolTable) :=
  match table.nickname? t with
  | some nickname => some (nickname, table)
  | none =>
      match t with
      | .leaf _ _ => do
          let nickname ← leafNameWithin rounds t.segments table.taken 1 t.segments.length
          return (nickname, table.record t nickname)
      | .collection _ element => do
          let (elementName, table) ← assignWithin rounds table element
          let nickname ←
            freeNameWithin rounds (table.policy.collectionNickname elementName) table.taken
          return (nickname, table.record t nickname)

/-- Gives a type its nickname, counting the request. -/
def reserveWithin (rounds : Nat) (table : SymbolTable) (t : TypeRef) :
    Option (String × SymbolTable) :=
  { table with requests := table.requests + 1 }.assignWithin rounds t

end SymbolTable

/-! ## The names of elements -/

theorem length_le_freeName (base : String) (names : List String) :
    base.length ≤ (freeName base names).length := by
  rw [freeName]
  split
  · obtain ⟨k, _, heq, _⟩ := firstFree_eq base 2 names
    rw [heq, String.length_append]
    exact Nat.le_add_right _ _
  · exact Nat.le_refl _

theorem length_lt_collectionNickname (policy : ImportPolicy) (element : String) :
    element.length < (policy.collectionNickname element).length := by
  cases policy with
  | java package =>
    have hopening : 0 < "List<".length := by decide
    rw [ImportPolicy.collectionNickname, String.length_append, String.length_append]
    omega
  | python client =>
    have hopening : 0 < "list[".length := by decide
    rw [ImportPolicy.collectionNickname, String.length_append, String.length_append]
    omega

namespace SymbolTable

/-- A reservation takes no name that is longer than the one that it gives. -/
theorem Reserves.mem_taken {table after : SymbolTable} {t : TypeRef} {nickname name : String}
    (h : Reserves table t nickname after) (hname : name ∈ after.taken) :
    name ∈ table.taken ∨ name.length ≤ nickname.length := by
  have hlast {given : String} (hgiven : name ∈ [given]) : name.length ≤ given.length :=
    Nat.le_of_eq (congrArg String.length (List.mem_singleton.1 hgiven))
  induction h with
  | known _ => exact .inl hname
  | leaf _ _ =>
    rw [taken_record] at hname
    exact (List.mem_append.1 hname).imp_right hlast
  | @collection identity elementName nickname element after _ _ hnickname ih =>
    rw [taken_record] at hname
    rcases List.mem_append.1 hname with hname | hname
    · refine (ih hname).imp_right fun hle => ?_
      calc
        name.length ≤ elementName.length := hle
        _ ≤ (table.policy.collectionNickname elementName).length :=
          Nat.le_of_lt (length_lt_collectionNickname _ _)
        _ ≤ nickname.length := hnickname ▸ length_le_freeName _ _
    · exact .inr (hlast hname)

/-- A search for the name of a collection meets no name that was taken for its element. -/
theorem Reserves.mem_taken_of_numbered {table after : SymbolTable} {element : TypeRef}
    {elementName : String} (h : Reserves table element elementName after) {n : Nat}
    (hname : table.policy.collectionNickname elementName ++ n.repr ∈ after.taken) :
    table.policy.collectionNickname elementName ++ n.repr ∈ table.taken := by
  refine (h.mem_taken hname).resolve_right fun hle => ?_
  have hlt := length_lt_collectionNickname table.policy elementName
  rw [String.length_append] at hle
  omega

end SymbolTable

/-! ## Reservations end -/

section Ends

variable {rounds : Nat}

theorem leafNameWithin_eq {names : List String} (hrounds : names.length < rounds)
    (hsize : names.length < UInt64.size - 2) (segments : List String) (n more : Nat) :
    leafNameWithin rounds segments names n more = some (leafName segments names n more) := by
  induction more generalizing n with
  | zero => exact Search.within_eq (fun _ h => h) hrounds hsize
  | succ more ih =>
    rw [leafNameWithin, leafName]
    split
    · exact ih (n + 1)
    · rfl

theorem freeNameWithin_eq {base : String} {names others : List String}
    (hmeets : ∀ n : Nat, base ++ n.repr ∈ names → base ++ n.repr ∈ others)
    (hrounds : others.length < rounds) (hsize : others.length < UInt64.size - 2) :
    freeNameWithin rounds base names = some (freeName base names) := by
  rw [freeNameWithin, freeName]
  split
  · exact Search.within_eq hmeets hrounds hsize
  · rfl

namespace SymbolTable

theorem length_taken (table : SymbolTable) : table.taken.length = table.entries.length :=
  List.length_map _

/-- Where each search gets more rounds than the table has entries, the type gets its nickname. -/
theorem assignWithin_eq {table : SymbolTable} (hrounds : table.entries.length < rounds)
    (hsize : table.entries.length < UInt64.size - 2) (t : TypeRef) :
    assignWithin rounds table t = some (table.assign t) := by
  rw [← length_taken] at hrounds hsize
  induction t with
  | leaf kind identity =>
    rw [assignWithin, assign]
    cases table.nickname? (.leaf kind identity) with
    | some nickname => rfl
    | none =>
      dsimp only
      rw [leafNameWithin_eq hrounds hsize]
      rfl
  | collection identity element ih =>
    have helement := reserves_assign table element
    have hname : freeNameWithin rounds
        ((table.assign element).2.policy.collectionNickname (table.assign element).1)
        (table.assign element).2.taken =
          some (freeName
            ((table.assign element).2.policy.collectionNickname (table.assign element).1)
            (table.assign element).2.taken) := by
      rw [helement.policy_eq]
      exact freeNameWithin_eq (fun _ => helement.mem_taken_of_numbered) hrounds hsize
    rw [assignWithin, assign]
    cases table.nickname? (.collection identity element) with
    | some nickname => rfl
    | none =>
      simp only [ih, Option.bind_eq_bind, Option.bind_some, hname]
      rfl

/-- The search for a number behind a name ends after one round more than there are names in use, and
it tries one number after another from 2 up.  It finds the name with the least free number, or else
all numbers of 64 bits from 2 up are in use.

So a table with fewer entries than these numbers gives every type its nickname.  No search of the
reservation takes more than one round for each entry that the table had before, and one more. -/
theorem reserve_ends :
    (∀ (base : String) (names : List String),
      ∃ rounds, rounds ≤ names.toFinset.card + 1 ∧
        (∀ n < rounds, Search.after base names n = .trying (.ofNat (2 + n))) ∧
        (Search.after base names rounds = .found (firstFree base 2 names) ∨
          Search.after base names rounds = .overflow ∧
            UInt64.size - 2 ≤ names.toFinset.card)) ∧
      ∀ table : SymbolTable, table.entries.length < UInt64.size - 2 →
        ∀ rounds, table.entries.length < rounds →
          ∀ t, table.reserveWithin rounds t = some (table.reserve t) := by
  refine ⟨fun base names => Search.exists_rounds fun _ h => h, ?_⟩
  intro table hsize rounds hrounds t
  let counted : SymbolTable := { table with requests := table.requests + 1 }
  have hcounted : counted.entries.length = table.entries.length := rfl
  exact assignWithin_eq (hcounted ▸ hrounds) (hcounted ▸ hsize) t

/-- A book for which every join of its segments is in use, so that a number is searched for. -/
theorem reserve_ends_book :
    let table := (empty (.java none)).reserveAll [.leaf .message "x.Book", .leaf .message "a_Book"]
    let book := TypeRef.leaf .message "a.Book"
    table.entries.length < UInt64.size - 2 ∧ table.entries.length < 3 ∧
      table.reserveWithin 3 book = some (table.reserve book) ∧
      (table.reserve book).1 = "a_Book2" := by
  intro table book
  have hlength : table.entries.length = 2 := by decide +kernel
  have hsize : table.entries.length < UInt64.size - 2 := by
    rw [hlength]
    decide
  have hrounds : table.entries.length < 3 := by
    rw [hlength]
    decide
  have hname : (table.reserve book).1 = "a_Book2" := by decide +kernel
  exact ⟨hsize, hrounds, reserve_ends.2 table hsize 3 hrounds book, hname⟩

end SymbolTable

end Ends

end SampleForge
