import Mathlib.Data.List.TakeWhile
import SampleForge.Proofs.Settings.Merge
import SampleForge.Settings.KeyExpression

/-!
# Sources as trees

A source names its entries by key expressions.  If these have names only (`KeyMove.IsPlain`), the
source says the same as a tree, in which an entry stands inside a group for each name of its key but
the last (`tree`).  Writing the source is merging the tree (`writeAll_eq_putAll`).

The first name of a key is a key of one name, so no name comes apart when a merge is written again
(`writeAll_members`).
-/

namespace SampleForge

open Text (Settled lower_lower)

namespace KeyMove

/-- Whether a step goes to a name. -/
def IsName : KeyMove → Prop
  | .name _ => True
  | .item _ => False

instance (move : KeyMove) : Decidable move.IsName :=
  match move with
  | .name _ => isTrue trivial
  | .item _ => isFalse id

/-- Whether a key, written small, has names only. -/
def IsPlain (key : String) : Prop := ∀ move ∈ parse (Text.lower key), move.IsName

instance (key : String) : Decidable (IsPlain key) :=
  inferInstanceAs (Decidable (∀ move ∈ parse (Text.lower key), move.IsName))

theorem name?_eq_some {cs rest : List Char} {move : KeyMove} (h : name? cs = some (move, rest)) :
    ∃ name, move = .name (String.ofList name) ∧ name ≠ [] ∧ name ++ rest = cs ∧
      ∀ c ∈ name, isNameChar c = true := by
  rw [name?] at h
  split at h
  · cases h
  · rename_i hne
    cases h
    exact ⟨cs.takeWhile isNameChar, rfl, by simpa using hne,
      List.prefix_iff_eq_append.1 (List.takeWhile_prefix isNameChar),
      fun c hc => List.mem_takeWhile_imp hc⟩

theorem item?_eq_some {cs rest : List Char} {move : KeyMove} (h : item? cs = some (move, rest)) :
    ∃ n, move = .item n := by
  unfold item? at h
  split at h
  dsimp only at h
  split at h
  · split at h
    · cases h
    · obtain ⟨n, _, hn⟩ := Option.map_eq_some_iff.1 h
      cases hn
      exact ⟨n, rfl⟩
  · cases h

theorem mem_of_moves? {count : Nat} {cs : List Char} {moves : List KeyMove}
    (h : moves? count cs = some moves) (hplain : ∀ move ∈ moves, move.IsName) {name : String}
    (hname : .name name ∈ moves) : ∀ c ∈ name.toList, c ∈ cs := by
  induction count generalizing cs moves with
  | zero =>
    cases cs with
    | nil =>
      cases h
      cases hname
    | cons c cs => cases h
  | succ count ih =>
    unfold moves? at h
    split at h
    · cases h
      cases hname
    · cases h
    · rename_i heq
      cases heq
      obtain ⟨⟨move, rest⟩, hmove, h⟩ := Option.bind_eq_some_iff.1 h
      obtain ⟨moves, hmoves, h⟩ := Option.bind_eq_some_iff.1 h
      cases h
      obtain ⟨first, rfl, _, rfl, _⟩ := name?_eq_some hmove
      intro c hc
      rcases List.mem_cons.1 hname with hfirst | hlater
      · cases hfirst
        rw [String.toList_ofList] at hc
        exact List.mem_cons_of_mem _ (List.mem_append_left _ hc)
      · have hrest := ih hmoves (fun m hm => hplain m (List.mem_cons_of_mem _ hm)) hlater c hc
        exact List.mem_cons_of_mem _ (List.mem_append_right _ hrest)
    · -- An item is no name, so a plain key does not come here.
      obtain ⟨⟨move, rest⟩, hmove, h⟩ := Option.bind_eq_some_iff.1 h
      obtain ⟨moves, _, h⟩ := Option.bind_eq_some_iff.1 h
      cases h
      obtain ⟨n, rfl⟩ := item?_eq_some hmove
      exact absurd (hplain (.item n) List.mem_cons_self) id
    · cases h

/-- A key is one name, or it starts with a name and goes on with other steps. -/
theorem parse_cases (key : String) :
    parse key = [.name key] ∨
      ∃ name rest moves, parse key = .name (String.ofList name) :: moves ∧ name ≠ [] ∧
        name ++ rest = key.toList ∧ (∀ c ∈ name, isNameChar c = true) ∧
        moves? rest.length rest = some moves := by
  rw [parse]
  cases hname : name? key.toList with
  | none => exact .inl rfl
  | some found =>
    obtain ⟨move, rest⟩ := found
    obtain ⟨name, rfl, hne, hkey, hchars⟩ := name?_eq_some hname
    cases hmoves : moves? rest.length rest with
    | none =>
      left
      simp [hmoves]
    | some moves =>
      right
      exact ⟨name, rest, moves, by simp [hmoves], hne, hkey, hchars, hmoves⟩

theorem parse_of_isNameChar {name : List Char} (hne : name ≠ [])
    (h : ∀ c ∈ name, isNameChar c = true) :
    parse (String.ofList name) = [.name (String.ofList name)] := by
  have hname : name? name = some (.name (String.ofList name), []) := by
    rw [name?, List.takeWhile_eq_self_iff.2 h, List.drop_length, if_neg (by simpa using hne)]
  rw [parse, String.toList_ofList, hname]
  rfl

/-- Whether a text is small and a key of one name. -/
structure IsSingle (name : String) : Prop where
  /-- It is small. -/
  small : Text.lower name = name
  /-- It is one name. -/
  single : parse name = [.name name]

/-- The first name of a key is a key of its own. -/
theorem isSingle_of_parse {key name : String} {moves : List KeyMove}
    (h : parse (Text.lower key) = .name name :: moves) : IsSingle name := by
  rcases parse_cases (Text.lower key) with hone | ⟨first, rest, _, hmany, hne, hkey, hchars, _⟩
  · rw [hone] at h
    cases h
    exact ⟨lower_lower key, hone⟩
  · rw [hmany] at h
    cases h
    refine ⟨Text.lower_of_settled fun c hc => ?_, parse_of_isNameChar hne hchars⟩
    rw [String.toList_ofList] at hc
    exact Text.settled_of_mem_lower (hkey ▸ List.mem_append_left rest hc)

/-- The names of a plain key are small. -/
theorem IsPlain.small {key name : String} (h : IsPlain key)
    (hname : .name name ∈ parse (Text.lower key)) : Text.lower name = name := by
  rcases parse_cases (Text.lower key) with hone | ⟨first, rest, moves, hmany, _, hkey, _, hmoves⟩
  · rw [hone, List.mem_singleton] at hname
    cases hname
    exact lower_lower key
  · rw [hmany] at hname
    rcases List.mem_cons.1 hname with hfirst | hlater
    · cases hfirst
      exact (isSingle_of_parse hmany).small
    · have hplain : ∀ move ∈ moves, move.IsName := fun move hmove =>
        h move (hmany ▸ List.mem_cons_of_mem _ hmove)
      refine Text.lower_of_settled fun c hc => ?_
      have hmem : c ∈ rest := mem_of_moves? hmoves hplain hlater c hc
      exact Text.settled_of_mem_lower (hkey ▸ List.mem_append_right first hmem)

end KeyMove

namespace Entry

open KeyMove (IsPlain IsSingle)

/-! ## Trees -/

/-- The member that an entry at the end of some steps is. -/
def nested : List KeyMove → Entry → List (String × Entry)
  | [.name name], value => [(name, value)]
  | .name name :: rest, value => [(name, .group none (nested rest value))]
  | _, _ => []

/-- The tree of a source. -/
def tree (source : List (String × Entry)) : List (String × Entry) :=
  source.flatMap fun entry => nested (KeyMove.parse (Text.lower entry.1)) entry.2

theorem put_nothing (name : String) (value : Entry) : put name nothing value =
    put name emptyGroup value := by
  cases value with
  | leaf origin leaf => rw [put, put]; rfl
  | list origin items => rw [put, put]; rfl
  | group origin members => rw [put, put]; rfl

theorem exists_nested {move : KeyMove} {rest : List KeyMove}
    (h : ∀ m ∈ move :: rest, m.IsName) (value : Entry) :
    ∃ name inner, move = .name name ∧ nested (move :: rest) value = [(name, inner)] := by
  cases move with
  | item n => exact absurd (h (.item n) List.mem_cons_self) id
  | name name =>
    cases rest with
    | nil => exact ⟨name, value, rfl, rfl⟩
    | cons next rest => exact ⟨name, _, rfl, rfl⟩

/-- Putting an entry at the end of small names is merging what it is inside groups. -/
theorem write_eq_putAll {moves : List KeyMove} (hne : moves ≠ [])
    (hnames : ∀ move ∈ moves, move.IsName)
    (hsmall : ∀ name, .name name ∈ moves → Text.lower name = name) (value root : Entry) :
    write value moves root = putAll root (nested moves value) := by
  -- The root changes from step to step: what is written inside a name is written to what stands
  -- there.
  induction moves generalizing root with
  | nil => exact absurd rfl hne
  | cons move rest ih =>
    cases move with
    | item n => exact absurd (hnames (.item n) List.mem_cons_self) id
    | name name =>
      cases rest with
      | nil => rw [write, nested, putAll_singleton]
      | cons next rest =>
        have hname : Text.lower name = name := hsmall name List.mem_cons_self
        have hrest : ∀ m ∈ next :: rest, m.IsName := fun m hm =>
          hnames m (List.mem_cons_of_mem _ hm)
        have hwrite := fun root => ih (List.cons_ne_nil next rest) hrest
          (fun n hn => hsmall n (List.mem_cons_of_mem _ hn)) root
        obtain ⟨n, inner, _, hinner⟩ := exists_nested hrest value
        rw [write, nested, putAll_singleton, put_group, hname, hwrite, hinner, putAll_singleton,
          putAll_singleton, child]
        · cases root.member? name with
          | none => exact congrArg (fun e => set name e root) (put_nothing n inner)
          | some stands => rfl
        · rintro ⟨⟩
        · rintro ⟨⟩

theorem writeKey_eq_putAll {key : String} (h : IsPlain key) (root value : Entry) :
    root.writeKey key value = putAll root (nested (KeyMove.parse (Text.lower key)) value) := by
  refine write_eq_putAll ?_ h (fun name hname => h.small hname) value root
  rcases KeyMove.parse_cases (Text.lower key) with hone | ⟨_, _, _, hmany, _⟩
  · rw [hone]
    exact List.cons_ne_nil _ _
  · rw [hmany]
    exact List.cons_ne_nil _ _

/-- Writing a source with plain keys is merging its tree. -/
theorem writeAll_eq_putAll {source : List (String × Entry)} (h : ∀ entry ∈ source, IsPlain entry.1)
    (root : Entry) : root.writeAll source = putAll root (tree source) := by
  induction source generalizing root with
  | nil => rw [tree, List.flatMap_nil, putAll]; rfl
  | cons entry rest ih =>
    obtain ⟨hentry, hrest⟩ := List.forall_mem_cons.1 h
    rw [tree, List.flatMap_cons, putAll_append, ← writeKey_eq_putAll hentry]
    exact ih hrest _

/-! ## Writing a merge -/

theorem isSingle_of_mem_tree {source : List (String × Entry)}
    (h : ∀ entry ∈ source, IsPlain entry.1) {m : String × Entry} (hm : m ∈ tree source) :
    IsSingle m.1 := by
  obtain ⟨entry, hentry, hm⟩ := List.mem_flatMap.1 hm
  have hplain : ∀ move ∈ KeyMove.parse (Text.lower entry.1), move.IsName := h entry hentry
  cases hmoves : KeyMove.parse (Text.lower entry.1) with
  | nil =>
    rw [hmoves, nested] at hm
    · cases hm
    · rintro _ ⟨⟩
    · rintro _ _ ⟨⟩
  | cons move rest =>
    rw [hmoves] at hplain hm
    obtain ⟨name, inner, rfl, hnested⟩ := exists_nested hplain entry.2
    rw [hnested, List.mem_singleton] at hm
    subst hm
    exact KeyMove.isSingle_of_parse hmoves

theorem isSingle_of_mem_putAll {ms : List (String × Entry)} (h : ∀ m ∈ ms, IsSingle m.1) :
    ∀ m ∈ (putAll emptyGroup ms).members, IsSingle m.1 := by
  induction ms using List.reverseRecOn with
  | nil => rintro m ⟨⟩
  | append_singleton ms m ih =>
    rw [List.forall_mem_append] at h
    obtain ⟨hms, hm⟩ := h
    have hsingle : IsSingle m.1 := hm m List.mem_cons_self
    obtain ⟨merged, hmerged⟩ := exists_put_eq m.1 (putAll emptyGroup ms) m.2
    obtain ⟨origin, members, hgroup⟩ := isGroup_iff.1 (isGroup_putAll isGroup_emptyGroup ms)
    rw [putAll_append, putAll_singleton, hmerged, hsingle.small, hgroup]
    intro other hother
    rcases mem_insertPair hother with rfl | hother
    · exact hsingle
    · refine ih hms other ?_
      rw [hgroup]
      exact hother

/-- Writing members whose names are keys of one name is merging them. -/
theorem writeAll_of_isSingle {ms : List (String × Entry)} (h : ∀ m ∈ ms, IsSingle m.1)
    (root : Entry) : root.writeAll ms = putAll root ms := by
  have hparse : ∀ m ∈ ms, KeyMove.parse (Text.lower m.1) = [.name m.1] := by
    intro m hm
    rw [(h m hm).small, (h m hm).single]
  have hplain : ∀ m ∈ ms, IsPlain m.1 := by
    intro m hm move hmove
    rw [hparse m hm, List.mem_singleton] at hmove
    rw [hmove]
    trivial
  have htree : tree ms = ms := by
    have hnested : ∀ m ∈ ms, nested (KeyMove.parse (Text.lower m.1)) m.2 = [m] := by
      intro m hm
      rw [hparse m hm, nested]
    rw [tree, List.flatMap_congr hnested, List.flatMap_singleton']
  rw [writeAll_eq_putAll hplain, htree]

/-- Sources with plain keys that are merged and then written onto a root: a merge of their trees,
put onto the root. -/
theorem writeAll_members {sources : List (List (String × Entry))}
    (h : ∀ source ∈ sources, ∀ entry ∈ source, IsPlain entry.1) (root : Entry) :
    root.writeAll (sources.foldl writeAll emptyGroup).members =
      onto root (sources.flatMap tree) := by
  -- Both passes are merges: of the trees among themselves, then of the result onto the root.
  have hmerged : ∀ start : Entry,
      sources.foldl writeAll start = putAll start (sources.flatMap tree) := by
    intro start
    induction sources generalizing start with
    | nil => rw [List.foldl_nil, List.flatMap_nil, putAll]
    | cons source rest ih =>
      obtain ⟨hsource, hrest⟩ := List.forall_mem_cons.1 h
      rw [List.foldl_cons, List.flatMap_cons, putAll_append, writeAll_eq_putAll hsource, ih hrest]
  have hsingle : ∀ m ∈ sources.flatMap tree, IsSingle m.1 := by
    intro m hm
    obtain ⟨source, hsource, hm⟩ := List.mem_flatMap.1 hm
    exact isSingle_of_mem_tree (h source hsource) hm
  rw [hmerged, writeAll_of_isSingle (isSingle_of_mem_putAll hsingle), onto]

end Entry

end SampleForge
