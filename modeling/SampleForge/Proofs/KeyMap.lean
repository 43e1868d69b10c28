import Mathlib.Data.List.Forall2
import Mathlib.Data.List.Nodup
import SampleForge.KeyMap

/-!
# Look-ups in key maps

A look-up finds exactly the pairs that a map holds (`get?_eq_some`), so maps with the same look-ups
are equal (`ext_get?`).  `insertAll` puts several pairs into a map.  If their keys are *fresh*,
distinct and new to the map, it then holds them and what it held before (`get?_insertAll`).

Two maps match (`Matches`) when they have the same keys and their values are related.
-/

namespace SampleForge

theorem mem_of_findPair? {α : Type} {key : String} {value : α} {pairs : List (String × α)}
    (h : findPair? key pairs = some value) : (key, value) ∈ pairs := by
  induction pairs with
  | nil => cases h
  | cons head rest ih =>
    obtain ⟨k, v⟩ := head
    rw [findPair?] at h
    split at h
    · rename_i heq
      cases h
      exact heq ▸ List.mem_cons_self
    · exact List.mem_cons_of_mem _ (ih h)

/-- A value is found exactly at the keys of a list. -/
theorem exists_findPair?_iff {α : Type} {key : String} {pairs : List (String × α)} :
    (∃ value, findPair? key pairs = some value) ↔ key ∈ pairs.map (·.1) := by
  constructor
  · rintro ⟨value, h⟩
    exact List.mem_map.2 ⟨_, mem_of_findPair? h, rfl⟩
  · intro h
    induction pairs with
    | nil => cases h
    | cons head rest ih =>
      obtain ⟨k, v⟩ := head
      rw [findPair?]
      split
      · exact ⟨v, rfl⟩
      · rename_i hne
        exact ih ((List.mem_cons.1 h).resolve_left hne)

theorem findPair?_eq_some {α : Type} {key : String} {value : α} {pairs : List (String × α)}
    (h : Ascending pairs) : findPair? key pairs = some value ↔ (key, value) ∈ pairs := by
  induction pairs with
  | nil => simp [findPair?]
  | cons head rest ih =>
    obtain ⟨k, v⟩ := head
    obtain ⟨hhead, hrest⟩ := List.pairwise_cons.1 h
    simp only [findPair?]
    split
    · rename_i heq
      subst heq
      have hnot : (key, value) ∉ rest := fun hmem =>
        absurd (hhead _ hmem) (String.lt_irrefl key)
      simp [hnot, eq_comm]
    · rename_i hne
      simp [ih hrest, hne]

theorem Ascending.nodup_keys {α : Type} {pairs : List (String × α)} (h : Ascending pairs) :
    (pairs.map (·.1)).Nodup :=
  List.pairwise_map.2 (h.imp fun hlt heq => absurd (heq ▸ hlt) (String.lt_irrefl _))

/-! ## Some pairs of a list -/

section Filter

variable {α : Type} {key : String} {p : String × α → Bool}

theorem findPair?_filter (h : ∀ value, p (key, value) = true) (pairs : List (String × α)) :
    findPair? key (pairs.filter p) = findPair? key pairs := by
  induction pairs with
  | nil => rfl
  | cons head rest ih =>
    obtain ⟨k, v⟩ := head
    by_cases hp : p (k, v) = true
    · rw [List.filter_cons_of_pos hp, findPair?, findPair?, ih]
    · have hne : key ≠ k := fun heq => hp (heq ▸ h v)
      rw [List.filter_cons_of_neg hp, findPair?, if_neg hne, ih]

/-- A pair that is put into a list is put among those that are kept, if those that are not kept come
before it. -/
theorem filter_insertPair_of_pos {value : α} (hkey : p (key, value) = true)
    (hdropped : ∀ pair, p pair = false → pair.1 < key) (pairs : List (String × α)) :
    (insertPair key value pairs).filter p = insertPair key value (pairs.filter p) := by
  induction pairs with
  | nil => simp [insertPair, hkey]
  | cons head rest ih =>
    obtain ⟨k, v⟩ := head
    by_cases hp : p (k, v) = true
    · rw [List.filter_cons_of_pos hp, insertPair, insertPair]
      split
      · rw [List.filter_cons_of_pos hkey, List.filter_cons_of_pos hp]
      · split
        · rw [List.filter_cons_of_pos hkey]
        · rw [List.filter_cons_of_pos hp, ih]
    · have hlt : k < key := hdropped (k, v) (Bool.eq_false_iff.2 hp)
      have hne : key ≠ k := fun heq => String.lt_irrefl k (heq ▸ hlt)
      rw [List.filter_cons_of_neg hp, insertPair, if_neg (String.lt_asymm hlt), if_neg hne,
        List.filter_cons_of_neg hp, ih]

theorem filter_insertPair_of_neg {value : α} (h : ∀ value, p (key, value) = false)
    (pairs : List (String × α)) : (insertPair key value pairs).filter p = pairs.filter p := by
  have hnot : ∀ value, ¬ p (key, value) = true := fun value => Bool.eq_false_iff.1 (h value)
  induction pairs with
  | nil => rw [insertPair, List.filter_cons_of_neg (hnot value)]
  | cons head rest ih =>
    obtain ⟨k, v⟩ := head
    rw [insertPair]
    split
    · rw [List.filter_cons_of_neg (hnot value)]
    · split
      · rename_i heq
        subst heq
        rw [List.filter_cons_of_neg (hnot value), List.filter_cons_of_neg (hnot v)]
      · rw [List.filter_cons, List.filter_cons, ih]

end Filter

namespace KeyMap

variable {α β : Type}

theorem get?_eq_some {map : KeyMap α} {key : String} {value : α} :
    map.get? key = some value ↔ (key, value) ∈ map.toList :=
  findPair?_eq_some map.ascending

theorem mem_keys {map : KeyMap α} {key : String} :
    key ∈ map.keys ↔ ∃ value, map.get? key = some value := by
  simp [keys, get?_eq_some]

theorem ascending_keys (map : KeyMap α) : map.keys.Pairwise (· < ·) :=
  List.pairwise_map.2 map.ascending

theorem nodup_keys (map : KeyMap α) : map.keys.Nodup := map.ascending.nodup_keys

theorem nodup_toList (map : KeyMap α) : map.toList.Nodup :=
  map.ascending.imp fun hlt heq => absurd (heq ▸ hlt) (String.lt_irrefl _)

theorem toList_inj {a b : KeyMap α} : a.toList = b.toList ↔ a = b := by
  constructor
  · intro h
    obtain ⟨as, ha⟩ := a
    obtain ⟨bs, hb⟩ := b
    cases h
    rfl
  · rintro rfl
    rfl

/-- Maps with the same look-ups are equal. -/
theorem ext_get? {a b : KeyMap α}
    (h : ∀ key value, a.get? key = some value ↔ b.get? key = some value) : a = b := by
  have hmem : ∀ pair, pair ∈ a.toList ↔ pair ∈ b.toList := by
    intro pair
    rw [← get?_eq_some, h, get?_eq_some]
  have hperm : a.toList.Perm b.toList :=
    (List.perm_ext_iff_of_nodup a.nodup_toList b.nodup_toList).2 hmem
  have hlist : a.toList = b.toList :=
    hperm.eq_of_pairwise (fun _ _ _ _ hab hba => absurd hba (String.lt_asymm hab))
      a.ascending b.ascending
  exact toList_inj.1 hlist

theorem get?_inj {a b : KeyMap α} : (∀ key, a.get? key = b.get? key) ↔ a = b := by
  constructor
  · intro h
    exact ext_get? fun key value => by rw [h key]
  · rintro rfl key
    rfl

theorem get?_mapValues (f : α → β) (map : KeyMap α) (key : String) :
    (map.mapValues f).get? key = (map.get? key).map f := by
  simp only [get?, mapValues]
  induction map.toList with
  | nil => rfl
  | cons head rest ih =>
    simp only [List.map_cons, findPair?, ih]
    split
    · rfl
    · rfl

theorem keys_mapValues (f : α → β) (map : KeyMap α) : (map.mapValues f).keys = map.keys := by
  simp [keys, mapValues]

/-- The map with several pairs put in, one after another. -/
def insertAll (map : KeyMap α) (pairs : List (String × α)) : KeyMap α :=
  pairs.foldl (fun map pair => map.insert pair.1 pair.2) map

theorem insertAll_cons (map : KeyMap α) (pair : String × α) (rest : List (String × α)) :
    map.insertAll (pair :: rest) = (map.insert pair.1 pair.2).insertAll rest := rfl

theorem insertAll_append (map : KeyMap α) (first rest : List (String × α)) :
    map.insertAll (first ++ rest) = (map.insertAll first).insertAll rest :=
  List.foldl_append

/-! ## Fresh keys -/

/-- Distinct keys that a map does not have. -/
def Fresh (map : KeyMap α) (keys : List String) : Prop :=
  keys.Nodup ∧ ∀ key ∈ keys, map.get? key = none

theorem fresh_nil (map : KeyMap α) : map.Fresh [] := by
  simp [Fresh]

theorem fresh_empty {keys : List String} : (empty : KeyMap α).Fresh keys ↔ keys.Nodup := by
  simp [Fresh]

theorem get?_insert_eq_none {map : KeyMap α} {key other : String} {value : α} :
    (map.insert key value).get? other = none ↔ other ≠ key ∧ map.get? other = none := by
  by_cases h : other = key
  · subst h
    simp
  · simp [get?_insert_of_ne map value h, h]

/-- Keys are fresh if the first is not in the map and the others are fresh once it is. -/
theorem fresh_cons {map : KeyMap α} {key : String} (value : α) {keys : List String} :
    map.Fresh (key :: keys) ↔ map.get? key = none ∧ (map.insert key value).Fresh keys := by
  simp only [Fresh, List.nodup_cons, List.forall_mem_cons, get?_insert_eq_none]
  constructor
  · rintro ⟨⟨hnot, hnodup⟩, hkey, hkeys⟩
    exact ⟨hkey, hnodup, fun other h => ⟨fun heq => hnot (heq ▸ h), hkeys other h⟩⟩
  · rintro ⟨hkey, hnodup, hkeys⟩
    exact ⟨⟨fun h => (hkeys key h).1 rfl, hnodup⟩, hkey, fun other h => (hkeys other h).2⟩

theorem fresh_append {map : KeyMap α} {pairs : List (String × α)} {keys : List String} :
    map.Fresh (pairs.map (·.1) ++ keys) ↔
      map.Fresh (pairs.map (·.1)) ∧ (map.insertAll pairs).Fresh keys := by
  induction pairs generalizing map with
  | nil => simp [insertAll, fresh_nil]
  | cons pair rest ih =>
    rw [List.map_cons, List.cons_append, fresh_cons pair.2, ih, fresh_cons pair.2, and_assoc,
      insertAll_cons]

/-- Pairs with fresh keys do not replace anything, nor one another. -/
theorem get?_insertAll {map : KeyMap α} {pairs : List (String × α)}
    (h : map.Fresh (pairs.map (·.1))) {key : String} {value : α} :
    (map.insertAll pairs).get? key = some value ↔
      map.get? key = some value ∨ (key, value) ∈ pairs := by
  induction pairs generalizing map with
  | nil => simp [insertAll]
  | cons pair rest ih =>
    obtain ⟨hnone, hrest⟩ := (fresh_cons pair.2).1 h
    rw [insertAll_cons, ih hrest, List.mem_cons]
    by_cases hkey : key = pair.1
    · subst hkey
      simp [hnone, Prod.ext_iff, eq_comm]
    · rw [get?_insert_of_ne map pair.2 hkey]
      simp [Prod.ext_iff, hkey]

/-- A map made of pairs with distinct keys holds these pairs. -/
theorem toList_insertAll_empty_perm {pairs : List (String × α)} (h : (pairs.map (·.1)).Nodup) :
    ((empty : KeyMap α).insertAll pairs).toList.Perm pairs := by
  rw [List.perm_ext_iff_of_nodup (nodup_toList _) h.of_map]
  intro pair
  rw [← get?_eq_some, get?_insertAll (fresh_empty.2 h)]
  simp

/-- The pairs of a map make the map, in whatever order they are put in. -/
theorem ofList_perm {map : KeyMap α} {pairs : List (String × α)} (h : pairs.Perm map.toList) :
    ofList pairs = map := by
  have hnodup : (pairs.map (·.1)).Nodup := (h.map Prod.fst).nodup_iff.2 map.nodup_keys
  refine ext_get? fun key value => ?_
  rw [ofList, ← insertAll, get?_insertAll (fresh_empty.2 hnodup), h.mem_iff]
  simp [get?_eq_some]

theorem ofList_toList (map : KeyMap α) : ofList map.toList = map :=
  ofList_perm (List.Perm.refl _)

theorem keys_insertAll_empty_perm {pairs : List (String × α)} (h : (pairs.map (·.1)).Nodup) :
    ((empty : KeyMap α).insertAll pairs).keys.Perm (pairs.map (·.1)) :=
  (toList_insertAll_empty_perm h).map _

end KeyMap

/-! ## Maps that match -/

/-- Pairs with the same key and related values. -/
def Paired {α β : Type} (R : String → α → β → Prop) (a : String × α) (b : String × β) : Prop :=
  a.1 = b.1 ∧ R a.1 a.2 b.2

section Paired

variable {α β : Type} {R : String → α → β → Prop} {as : List (String × α)} {bs : List (String × β)}
  {key : String}

theorem forall₂_insertPair (h : List.Forall₂ (Paired R) as bs) {a : α} {b : β} (hab : R key a b) :
    List.Forall₂ (Paired R) (insertPair key a as) (insertPair key b bs) := by
  induction h with
  | nil => exact .cons ⟨rfl, hab⟩ .nil
  | @cons x y _ _ hxy hrest ih =>
    obtain ⟨k, v⟩ := x
    obtain ⟨k', w⟩ := y
    obtain ⟨rfl, hvw⟩ := hxy
    simp only [insertPair]
    split
    · exact .cons ⟨rfl, hab⟩ (.cons ⟨rfl, hvw⟩ hrest)
    · split
      · exact .cons ⟨rfl, hab⟩ hrest
      · exact .cons ⟨rfl, hvw⟩ ih

theorem ascending_of_paired (h : List.Forall₂ (Paired R) as bs) (has : Ascending as) :
    Ascending bs := by
  have hkeys : bs.map (·.1) = as.map (·.1) := by
    induction h with
    | nil => rfl
    | cons hpair _ ih => rw [List.map_cons, List.map_cons, hpair.1, ih (List.pairwise_cons.1 has).2]
  have hpairwise : (bs.map (·.1)).Pairwise (· < ·) := hkeys ▸ List.pairwise_map.2 has
  exact List.pairwise_map.1 hpairwise

theorem rel_findPair? (h : List.Forall₂ (Paired R) as bs) (key : String) :
    Option.Rel (R key) (findPair? key as) (findPair? key bs) := by
  induction h with
  | nil => exact .none
  | @cons x y _ _ hxy _ ih =>
    obtain ⟨k, v⟩ := x
    obtain ⟨k', w⟩ := y
    obtain ⟨rfl, hvw⟩ := hxy
    simp only [findPair?]
    split
    · rename_i heq
      subst heq
      exact .some hvw
    · exact ih

end Paired

namespace KeyMap

variable {α β γ δ : Type} {R : String → α → β → Prop} {S : String → γ → δ → Prop}

/-- Maps with the same keys and related values. -/
def Matches (R : String → α → β → Prop) (a : KeyMap α) (b : KeyMap β) : Prop :=
  List.Forall₂ (Paired R) a.toList b.toList

namespace Matches

theorem refl {R : String → α → α → Prop} (h : ∀ key value, R key value value) (a : KeyMap α) :
    Matches R a a :=
  List.forall₂_same.2 fun pair _ => ⟨rfl, h pair.1 pair.2⟩

theorem empty : Matches R .empty .empty := .nil

variable {a : KeyMap α} {b : KeyMap β} (h : Matches R a b)

include h

theorem insert {key : String} {v : α} {w : β} (hvw : R key v w) :
    Matches R (a.insert key v) (b.insert key w) :=
  forall₂_insertPair h hvw

theorem get? (key : String) : Option.Rel (R key) (a.get? key) (b.get? key) := rel_findPair? h key

theorem mapValues {f : α → γ} {g : β → δ} (hfg : ∀ key v w, R key v w → S key (f v) (g w)) :
    Matches S (a.mapValues f) (b.mapValues g) := by
  rw [Matches, KeyMap.mapValues, KeyMap.mapValues, List.forall₂_map_left_iff,
    List.forall₂_map_right_iff]
  exact h.imp fun x y hpair => ⟨hpair.1, hfg _ _ _ hpair.2⟩

end Matches

end KeyMap

end SampleForge
