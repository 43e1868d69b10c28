import Mathlib.Data.List.Induction
import SampleForge.Proofs.KeyMap
import SampleForge.Proofs.Text.Case
import SampleForge.Settings.Entry

/-!
# Merging entries

What stands under a name once many entries have been merged.

* If the last entry under the name is no group, it stands there, whatever came before it
  (`member?_putAll`).
* If all entries under the name are groups, what stands there is a merge of their members
  (`child_putAll`), so the same two laws hold one level further in.

Entries are merged twice: first with one another, and then onto a group that was there before.
What stands in that group is the same as if each entry had been merged onto it (`member?_onto`,
`child_onto`).  This rests on what a merge looks like: its names are small and ascend (`Tidy`).
-/

namespace SampleForge.Entry

/-- Whether an entry is a group. -/
def IsGroup : Entry → Prop
  | .group _ _ => True
  | _ => False

instance (entry : Entry) : Decidable entry.IsGroup :=
  match entry with
  | .leaf _ _ => isFalse id
  | .list _ _ => isFalse id
  | .group _ _ => isTrue trivial

theorem isGroup_iff {entry : Entry} :
    entry.IsGroup ↔ ∃ origin members, entry = .group origin members := by
  cases entry with
  | leaf origin value => simp [IsGroup]
  | list origin items => simp [IsGroup]
  | group origin members => simp [IsGroup]

theorem isGroup_emptyGroup : emptyGroup.IsGroup := trivial

/-! ## One name -/

theorem member?_set_self (name : String) (value root : Entry) :
    (set name value root).member? name = some value := by
  cases root with
  | leaf origin leaf => simp [set, member?, members, findPair?]
  | list origin items => simp [set, member?, members, findPair?]
  | group origin members => exact findPair?_insertPair_self name value members

theorem member?_set_of_ne {name other : String} (h : other ≠ name) (value root : Entry) :
    (set name value root).member? other = root.member? other := by
  cases root with
  | leaf origin leaf => simp [set, member?, members, findPair?, h]
  | list origin items => simp [set, member?, members, findPair?, h]
  | group origin members => exact findPair?_insertPair_of_ne value members h

theorem isGroup_set (name : String) (value root : Entry) : (set name value root).IsGroup := by
  cases root with
  | leaf origin leaf => trivial
  | list origin items => trivial
  | group origin members => trivial

/-- What stands under a name, as a group. -/
def child (name : String) (root : Entry) : Entry := (root.member? name).getD emptyGroup

theorem child_set_self (name : String) (value root : Entry) :
    child name (set name value root) = value := by
  rw [child, member?_set_self, Option.getD_some]

theorem child_of_member? {name : String} {entry root : Entry} (h : root.member? name = some entry) :
    child name root = entry := by
  rw [child, h, Option.getD_some]

theorem put_group (name : String) (root : Entry) (origin : Option String)
    (incoming : List (String × Entry)) :
    put name root (.group origin incoming) =
      set (Text.lower name) (putAll (child (Text.lower name) root) incoming) root := by
  rw [put]
  rfl

theorem put_of_not_isGroup {value : Entry} (h : ¬ value.IsGroup) (name : String) (root : Entry) :
    put name root value = set (Text.lower name) value root := by
  cases value with
  | leaf origin leaf => rw [put]
  | list origin items => rw [put]
  | group origin members => exact absurd trivial h

/-- Every entry is put under its name in the form that merging gives it. -/
theorem exists_put_eq (name : String) (root value : Entry) :
    ∃ merged, put name root value = set (Text.lower name) merged root := by
  by_cases h : value.IsGroup
  · obtain ⟨origin, members, rfl⟩ := isGroup_iff.1 h
    exact ⟨_, put_group name root origin members⟩
  · exact ⟨value, put_of_not_isGroup h name root⟩

theorem member?_put_of_ne {name other : String} (h : Text.lower name ≠ other)
    (root value : Entry) : (put name root value).member? other = root.member? other := by
  obtain ⟨merged, hmerged⟩ := exists_put_eq name root value
  rw [hmerged, member?_set_of_ne (Ne.symm h)]

theorem putAll_append (root : Entry) (first rest : List (String × Entry)) :
    putAll root (first ++ rest) = putAll (putAll root first) rest := by
  induction first generalizing root with
  | nil => rw [List.nil_append, putAll]
  | cons m first ih => rw [List.cons_append, putAll, putAll, ih]

theorem putAll_singleton (root : Entry) (name : String) (value : Entry) :
    putAll root [(name, value)] = put name root value := by
  rw [putAll, putAll]

/-! ## Many names -/

/-- The entries that members give under a name. -/
def named (name : String) (members : List (String × Entry)) : List Entry :=
  (members.filter fun m => Text.lower m.1 = name).map (·.2)

/-- The members inside what members give under a name. -/
def inside (name : String) (members : List (String × Entry)) : List (String × Entry) :=
  (named name members).flatMap Entry.members

theorem named_append (name : String) (first rest : List (String × Entry)) :
    named name (first ++ rest) = named name first ++ named name rest := by
  simp [named]

theorem named_singleton (name : String) (m : String × Entry) :
    named name [m] = if Text.lower m.1 = name then [m.2] else [] := by
  by_cases h : Text.lower m.1 = name
  · simp [named, h]
  · simp [named, h]

theorem named_cons (name : String) (m : String × Entry) (rest : List (String × Entry)) :
    named name (m :: rest) = (if Text.lower m.1 = name then [m.2] else []) ++ named name rest := by
  rw [← named_singleton, ← named_append, List.singleton_append]

theorem mem_named {name : String} {members : List (String × Entry)} {entry : Entry} :
    entry ∈ named name members ↔ ∃ m ∈ members, Text.lower m.1 = name ∧ m.2 = entry := by
  simp [named]

theorem inside_append (name : String) (first rest : List (String × Entry)) :
    inside name (first ++ rest) = inside name first ++ inside name rest := by
  simp [inside, named_append]

/-- The last of the entries under a name stands there, if it is no group. -/
theorem member?_putAll {name : String} {ms : List (String × Entry)}
    (h : ∀ entry ∈ (named name ms).getLast?, ¬ entry.IsGroup) (root : Entry) :
    (putAll root ms).member? name = (named name ms).getLast?.or (root.member? name) := by
  -- From the end: if the last member has the name, all that was merged before is replaced.
  induction ms using List.reverseRecOn with
  | nil => simp [putAll, named]
  | append_singleton ms m ih =>
    rw [putAll_append, putAll_singleton]
    rw [named_append, named_singleton] at h ⊢
    by_cases hname : Text.lower m.1 = name
    · rw [if_pos hname, List.getLast?_concat] at h ⊢
      rw [put_of_not_isGroup (h m.2 rfl), hname, member?_set_self, Option.some_or]
    · rw [if_neg hname, List.append_nil] at h ⊢
      rw [member?_put_of_ne hname, ih h]

/-- Groups under a name are merged with what stands there. -/
theorem child_putAll {name : String} {ms : List (String × Entry)}
    (h : ∀ entry ∈ named name ms, entry.IsGroup) (root : Entry) :
    child name (putAll root ms) = putAll (child name root) (inside name ms) := by
  induction ms using List.reverseRecOn with
  | nil => simp [putAll, inside, named]
  | append_singleton ms m ih =>
    rw [named_append, List.forall_mem_append] at h
    obtain ⟨hms, hm⟩ := h
    rw [putAll_append, putAll_singleton, inside_append, putAll_append, ← ih hms]
    rw [named_singleton] at hm
    by_cases hname : Text.lower m.1 = name
    · rw [if_pos hname] at hm
      obtain ⟨origin, members, hgroup⟩ := isGroup_iff.1 (hm m.2 List.mem_cons_self)
      have hinside : inside name [m] = members := by
        simp [inside, named_singleton, hname, hgroup, Entry.members]
      rw [hgroup, put_group, hname, child_set_self, hinside]
    · have hinside : inside name [m] = [] := by
        simp [inside, named_singleton, hname]
      rw [child, member?_put_of_ne hname, hinside, putAll]
      rfl

theorem isGroup_putAll {root : Entry} (h : root.IsGroup) (ms : List (String × Entry)) :
    (putAll root ms).IsGroup := by
  induction ms using List.reverseRecOn with
  | nil => simpa [putAll] using h
  | append_singleton ms m ih =>
    obtain ⟨merged, hmerged⟩ := exists_put_eq m.1 (putAll root ms) m.2
    rw [putAll_append, putAll_singleton, hmerged]
    exact isGroup_set _ _ _

/-- What stands under a name is never taken away. -/
theorem exists_member?_putAll {name : String} {root : Entry}
    (h : ∃ entry, root.member? name = some entry) (ms : List (String × Entry)) :
    ∃ entry, (putAll root ms).member? name = some entry := by
  induction ms using List.reverseRecOn with
  | nil => simpa [putAll] using h
  | append_singleton ms m ih =>
    obtain ⟨merged, hmerged⟩ := exists_put_eq m.1 (putAll root ms) m.2
    rw [putAll_append, putAll_singleton, hmerged]
    by_cases hname : Text.lower m.1 = name
    · exact ⟨merged, by rw [hname, member?_set_self]⟩
    · rw [member?_set_of_ne (Ne.symm hname)]
      exact ih

/-- Groups among groups merge into a group. -/
theorem isGroup_of_member?_putAll {name : String} {root : Entry} {ms : List (String × Entry)}
    (hroot : ∀ entry ∈ root.member? name, entry.IsGroup)
    (h : ∀ entry ∈ named name ms, entry.IsGroup) :
    ∀ entry ∈ (putAll root ms).member? name, entry.IsGroup := by
  induction ms using List.reverseRecOn with
  | nil => simpa [putAll] using hroot
  | append_singleton ms m ih =>
    rw [named_append, List.forall_mem_append] at h
    obtain ⟨hms, hm⟩ := h
    rw [named_singleton] at hm
    rw [putAll_append, putAll_singleton]
    by_cases hname : Text.lower m.1 = name
    · rw [if_pos hname] at hm
      obtain ⟨origin, members, hgroup⟩ := isGroup_iff.1 (hm m.2 List.mem_cons_self)
      rw [hgroup, put_group, hname, member?_set_self]
      rintro entry ⟨⟩
      refine isGroup_putAll ?_ members
      cases hstands : (putAll root ms).member? name with
      | none =>
        rw [child, hstands]
        trivial
      | some stands =>
        rw [child_of_member? hstands]
        exact ih hms stands hstands
    · rw [member?_put_of_ne hname]
      exact ih hms

/-! ## The form of a merge -/

/-- A group whose members have small names that ascend. -/
structure Tidy (root : Entry) : Prop where
  /-- It is a group. -/
  group : root.IsGroup
  /-- The names ascend. -/
  ascending : Ascending root.members
  /-- The names are small. -/
  small : ∀ m ∈ root.members, Text.lower m.1 = m.1

theorem tidy_emptyGroup : emptyGroup.Tidy :=
  ⟨isGroup_emptyGroup, List.Pairwise.nil, by simp [emptyGroup, members]⟩

theorem Tidy.set {root : Entry} (h : root.Tidy) {name : String} (hname : Text.lower name = name)
    (value : Entry) : (Entry.set name value root).Tidy := by
  obtain ⟨origin, members, rfl⟩ := isGroup_iff.1 h.group
  refine ⟨trivial, h.ascending.insertPair, fun m hm => ?_⟩
  rcases mem_insertPair hm with rfl | hm
  · exact hname
  · exact h.small m hm

theorem Tidy.putAll {root : Entry} (h : root.Tidy) (ms : List (String × Entry)) :
    (Entry.putAll root ms).Tidy := by
  induction ms using List.reverseRecOn with
  | nil => simpa [Entry.putAll] using h
  | append_singleton ms m ih =>
    obtain ⟨merged, hmerged⟩ := exists_put_eq m.1 (Entry.putAll root ms) m.2
    rw [putAll_append, putAll_singleton, hmerged]
    exact ih.set (Text.lower_lower m.1) merged

theorem named_eq_toList {name : String} {ms : List (String × Entry)} (h : Ascending ms)
    (hsmall : ∀ m ∈ ms, Text.lower m.1 = m.1) : named name ms = (findPair? name ms).toList := by
  induction ms with
  | nil => rfl
  | cons m rest ih =>
    obtain ⟨k, v⟩ := m
    obtain ⟨hhead, hrest⟩ := List.pairwise_cons.1 h
    obtain ⟨hk, hsmall⟩ := List.forall_mem_cons.1 hsmall
    rw [named_cons, findPair?, hk, ih hrest hsmall]
    by_cases hname : k = name
    · subst hname
      have hnone : findPair? k rest = none := by
        rw [Option.eq_none_iff_forall_ne_some]
        intro w hw
        exact String.lt_irrefl k (hhead (k, w) ((findPair?_eq_some hrest).1 hw))
      rw [hnone, if_pos rfl, if_pos rfl]
      rfl
    · rw [if_neg hname, if_neg (Ne.symm hname), List.nil_append]

theorem Tidy.named_members {root : Entry} (h : root.Tidy) (name : String) :
    named name root.members = (root.member? name).toList := named_eq_toList h.ascending h.small

theorem Tidy.inside_members {root : Entry} (h : root.Tidy) (name : String) :
    inside name root.members = (child name root).members := by
  rw [inside, h.named_members, child]
  cases root.member? name with
  | none => rfl
  | some entry => simp

/-! ## Merging twice -/

/-- The entry with a merge of named entries put onto it. -/
def onto (root : Entry) (ms : List (String × Entry)) : Entry :=
  putAll root (putAll emptyGroup ms).members

theorem Tidy.onto {root : Entry} (h : root.Tidy) (ms : List (String × Entry)) :
    (Entry.onto root ms).Tidy := h.putAll _

theorem member?_onto {name : String} {ms : List (String × Entry)}
    (h : ∀ entry ∈ (named name ms).getLast?, ¬ entry.IsGroup) (root : Entry) :
    (onto root ms).member? name = (named name ms).getLast?.or (root.member? name) := by
  -- The first merge leaves at most one entry under the name, the last one.
  have hmerged : named name (putAll emptyGroup ms).members = (named name ms).getLast?.toList := by
    rw [(tidy_emptyGroup.putAll ms).named_members, member?_putAll h]
    exact congrArg Option.toList Option.or_none
  have hlast : (named name (putAll emptyGroup ms).members).getLast? = (named name ms).getLast? := by
    rw [hmerged]
    cases (named name ms).getLast? with
    | none => rfl
    | some entry => rfl
  rw [onto, member?_putAll, hlast]
  rwa [hlast]

section Groups

variable {name : String} {ms : List (String × Entry)}
  (h : ∀ entry ∈ named name ms, entry.IsGroup)

include h

theorem child_onto (root : Entry) :
    child name (onto root ms) = onto (child name root) (inside name ms) := by
  have hmerged : ∀ entry ∈ named name (putAll emptyGroup ms).members, entry.IsGroup := by
    rw [(tidy_emptyGroup.putAll ms).named_members]
    intro entry hentry
    exact isGroup_of_member?_putAll (by rintro _ ⟨⟩) h entry (Option.mem_toList.1 hentry)
  rw [onto, child_putAll hmerged, (tidy_emptyGroup.putAll ms).inside_members, child_putAll h]
  rfl

/-- A group stays one, with a merge of the members of the others put onto it. -/
theorem member?_onto_group {root stands : Entry} (hroot : root.member? name = some stands) :
    (onto root ms).member? name = some (onto stands (inside name ms)) := by
  obtain ⟨entry, hentry⟩ :=
    exists_member?_putAll ⟨stands, hroot⟩ (putAll emptyGroup ms).members
  rw [← child_of_member? hroot, ← child_onto h root]
  exact hentry.trans (congrArg some (child_of_member? hentry).symm)

end Groups

/-! ## Groups within groups -/

/-- The members inside groups within groups. -/
def insideAll (names : List String) (ms : List (String × Entry)) : List (String × Entry) :=
  names.foldl (fun ms name => inside name ms) ms

/-- What stands inside groups within groups. -/
def descend (names : List String) (root : Entry) : Entry :=
  names.foldl (fun entry name => entry.child name) root

/-- Whether members give only groups under names, one inside the other. -/
def Grouped : List String → List (String × Entry) → Prop
  | [], _ => True
  | name :: rest, ms =>
      (∀ entry ∈ named name ms, entry.IsGroup) ∧ Grouped rest (inside name ms)

instance decidableGrouped : (names : List String) → (ms : List (String × Entry)) →
    Decidable (Grouped names ms)
  | [], _ => isTrue trivial
  | name :: rest, ms =>
      have := decidableGrouped rest (inside name ms)
      inferInstanceAs (Decidable (_ ∧ _))

theorem descend_onto {names : List String} {ms : List (String × Entry)} (h : Grouped names ms)
    (root : Entry) :
    (onto root ms).descend names = onto (root.descend names) (insideAll names ms) := by
  induction names generalizing ms root with
  | nil => rfl
  | cons name rest ih =>
    obtain ⟨hname, hrest⟩ := h
    rw [descend, List.foldl_cons, child_onto hname]
    exact ih hrest _

section FlatMap

variable {α : Type} (xs : List α) (f : α → List (String × Entry))

theorem named_flatMap (name : String) :
    named name (xs.flatMap f) = xs.flatMap fun x => named name (f x) := by
  simp [named, List.filter_flatMap, List.map_flatMap]

theorem inside_flatMap (name : String) :
    inside name (xs.flatMap f) = xs.flatMap fun x => inside name (f x) := by
  rw [inside, named_flatMap, List.flatMap_assoc]
  rfl

theorem insideAll_flatMap (names : List String) :
    insideAll names (xs.flatMap f) = xs.flatMap fun x => insideAll names (f x) := by
  induction names generalizing f with
  | nil => rfl
  | cons name rest ih =>
    rw [insideAll, List.foldl_cons, inside_flatMap]
    exact ih fun x => inside name (f x)

theorem grouped_flatMap {names : List String} (h : ∀ x ∈ xs, Grouped names (f x)) :
    Grouped names (xs.flatMap f) := by
  induction names generalizing f with
  | nil => trivial
  | cons name rest ih =>
    constructor
    · intro entry hentry
      rw [named_flatMap] at hentry
      obtain ⟨x, hx, hentry⟩ := List.mem_flatMap.1 hentry
      exact (h x hx).1 entry hentry
    · rw [inside_flatMap]
      exact ih (fun x => inside name (f x)) fun x hx => (h x hx).2

end FlatMap

end SampleForge.Entry
