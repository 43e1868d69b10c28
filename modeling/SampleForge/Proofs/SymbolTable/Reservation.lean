import Mathlib.Data.List.Basic
import SampleForge.SymbolTable

/-!
# What a reservation records

A reservation walks down the element chain of a type until it meets a type that is known, and then
records what it passed, the innermost first.  `TypeRef.unmet` lists these types.  Nothing else
changes the entries of a table (`types_assign`), and what has been recorded is known afterwards
(`known_reserve`).
-/

namespace SampleForge

namespace TypeRef

/-- The types of an element chain above the first one whose identity has been met, the innermost
first. -/
def unmet (met : List String) : TypeRef → List TypeRef
  | .leaf kind identity => if identity ∈ met then [] else [.leaf kind identity]
  | .collection identity element =>
      if identity ∈ met then [] else unmet met element ++ [.collection identity element]

/-- The identities of `unmet`. -/
def unmetIdentities (met : List String) (t : TypeRef) : List String := (t.unmet met).map identity

theorem unmet_of_mem {met : List String} {t : TypeRef} (h : t.identity ∈ met) :
    t.unmet met = [] := by
  cases t with
  | leaf kind identity => exact if_pos h
  | collection identity element => exact if_pos h

theorem not_mem_of_mem_unmet {met : List String} {t u : TypeRef} (h : u ∈ t.unmet met) :
    u.identity ∉ met := by
  induction t with
  | leaf kind identity =>
    rw [unmet] at h
    split at h
    · cases h
    · rename_i hnot
      rw [List.mem_singleton.1 h]
      exact hnot
  | collection identity element ih =>
    rw [unmet] at h
    split at h
    · cases h
    · rename_i hnot
      rcases List.mem_append.1 h with h | h
      · exact ih h
      · rw [List.mem_singleton.1 h]
        exact hnot

end TypeRef

namespace SymbolTable

/-! ## What a table knows -/

/-- The identities of the entries. -/
def known (table : SymbolTable) : List String := table.entries.map (·.1.identity)

theorem known_eq_map (table : SymbolTable) :
    table.known = (table.entries.map (·.1)).map TypeRef.identity := by
  simp [known]

theorem nickname?_eq_none {table : SymbolTable} {t : TypeRef} :
    table.nickname? t = none ↔ t.identity ∉ table.known := by
  simp only [nickname?, known, Option.map_eq_none_iff, List.findRev?_eq_find?_reverse,
    List.find?_eq_none, List.mem_reverse, List.mem_map, not_exists, not_and]
  simp [TypeRef.sameAs]

theorem mem_known_of_nickname {table : SymbolTable} {t : TypeRef} {nickname : String}
    (h : table.nickname? t = some nickname) : t.identity ∈ table.known := by
  apply Classical.byContradiction
  intro hnot
  rw [nickname?_eq_none.2 hnot] at h
  cases h

/-! ## One entry -/

@[simp] theorem taken_record (table : SymbolTable) (t : TypeRef) (nickname : String) :
    (table.record t nickname).taken = table.taken ++ [nickname] := by
  simp [taken, record]

/-- A look-up finds the entry that was recorded last. -/
theorem nickname?_record_self (table : SymbolTable) {t u : TypeRef} (nickname : String)
    (h : t.identity = u.identity) : (table.record t nickname).nickname? u = some nickname := by
  simp [nickname?, record, List.findRev?_eq_find?_reverse, TypeRef.sameAs, h]

/-- An entry of another type does not matter to a look-up. -/
theorem nickname?_record_of_ne (table : SymbolTable) {t u : TypeRef} (nickname : String)
    (h : t.identity ≠ u.identity) : (table.record t nickname).nickname? u = table.nickname? u := by
  simp [nickname?, record, List.findRev?_eq_find?_reverse, TypeRef.sameAs, h]

/-! ## One reservation -/

/-- What a reservation does to a table: which nickname it gives and which table it leaves. -/
inductive Reserves (table : SymbolTable) : TypeRef → String → SymbolTable → Prop where
  /-- A known type keeps its nickname. -/
  | known {t : TypeRef} {nickname : String} :
      table.nickname? t = some nickname → Reserves table t nickname table
  /-- A new leaf takes its first free candidate. -/
  | leaf {kind : LeafKind} {identity nickname : String} :
      identity ∉ table.known →
      nickname = leafName (Text.split '.' identity) table.taken 1
        (Text.split '.' identity).length →
      Reserves table (.leaf kind identity) nickname
        (table.record (.leaf kind identity) nickname)
  /-- A new collection takes a free name after its element has one. -/
  | collection {identity elementName nickname : String} {element : TypeRef}
      {after : SymbolTable} :
      identity ∉ table.known → Reserves table element elementName after →
      nickname = freeName (table.policy.collectionNickname elementName) after.taken →
      Reserves table (.collection identity element) nickname
        (after.record (.collection identity element) nickname)

namespace Reserves

variable {table after : SymbolTable} {t : TypeRef} {nickname : String}

theorem policy_eq (h : Reserves table t nickname after) : after.policy = table.policy := by
  induction h with
  | known _ => rfl
  | leaf _ _ => rfl
  | collection _ _ _ ih => exact ih

theorem requests_eq (h : Reserves table t nickname after) : after.requests = table.requests := by
  induction h with
  | known _ => rfl
  | leaf _ _ => rfl
  | collection _ _ _ ih => exact ih

/-- The types of the entries afterwards: those before and then the unmet ones. -/
theorem types_eq (h : Reserves table t nickname after) :
    after.entries.map (·.1) = table.entries.map (·.1) ++ t.unmet table.known := by
  induction h with
  | known h =>
    rw [TypeRef.unmet_of_mem (mem_known_of_nickname h), List.append_nil]
  | leaf hnew _ => simp [record, TypeRef.unmet, hnew]
  | collection hnew _ _ ih => simp [record, TypeRef.unmet, hnew, ih]

theorem known_eq (h : Reserves table t nickname after) :
    after.known = table.known ++ t.unmetIdentities table.known := by
  rw [known_eq_map, h.types_eq, List.map_append, ← known_eq_map, TypeRef.unmetIdentities]

end Reserves

theorem reserves_assign (table : SymbolTable) (t : TypeRef) :
    Reserves table t (table.assign t).1 (table.assign t).2 := by
  induction t with
  | leaf kind identity =>
    rw [assign]
    split
    · rename_i nickname h
      exact .known h
    · rename_i h
      exact .leaf (nickname?_eq_none.1 h) rfl
  | collection identity element ih =>
    rw [assign]
    split
    · rename_i nickname h
      exact .known h
    · rename_i h
      refine .collection (nickname?_eq_none.1 h) ih ?_
      rw [← ih.policy_eq]

/-! ## Several reservations -/

theorem known_reserve (table : SymbolTable) (t : TypeRef) :
    (table.reserve t).2.known = table.known ++ t.unmetIdentities table.known :=
  (reserves_assign { table with requests := table.requests + 1 } t).known_eq

theorem requests_reserve (table : SymbolTable) (t : TypeRef) :
    (table.reserve t).2.requests = table.requests + 1 :=
  (reserves_assign { table with requests := table.requests + 1 } t).requests_eq

theorem policy_reserve (table : SymbolTable) (t : TypeRef) :
    (table.reserve t).2.policy = table.policy :=
  (reserves_assign { table with requests := table.requests + 1 } t).policy_eq

theorem reserveAll_cons (table : SymbolTable) (t : TypeRef) (rest : List TypeRef) :
    table.reserveAll (t :: rest) = (table.reserve t).2.reserveAll rest := rfl

theorem reserveAll_append (table : SymbolTable) (first rest : List TypeRef) :
    table.reserveAll (first ++ rest) = (table.reserveAll first).reserveAll rest :=
  List.foldl_append

theorem policy_reserveAll (table : SymbolTable) (types : List TypeRef) :
    (table.reserveAll types).policy = table.policy := by
  induction types generalizing table with
  | nil => rfl
  | cons t rest ih => rw [reserveAll_cons, ih, policy_reserve]

/-- Every reservation is counted, whether or not it records anything. -/
theorem requests_reserveAll (table : SymbolTable) (types : List TypeRef) :
    (table.reserveAll types).requests = table.requests + types.length := by
  induction types generalizing table with
  | nil => rfl
  | cons t rest ih =>
    rw [reserveAll_cons, ih, requests_reserve, List.length_cons]
    omega

end SymbolTable

end SampleForge
