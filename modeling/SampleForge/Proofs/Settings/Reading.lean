import SampleForge.Proofs.KeyMap
import SampleForge.Proofs.Outcome
import SampleForge.Proofs.Settings.Merge
import SampleForge.Settings.Decode

/-!
# Reading settings one by one

A `Setting` has a place, a name inside some groups, and its own way to be read from the entry there.
Settings are read from an entry exactly if each setting can be read from what stands at its place,
and then each has the value that is read there, or its default if nothing stands there
(`exists_ofEntry`).

`Field` says what this takes of the function that takes in one member of a group.
-/

namespace SampleForge

open Outcome

/-! ## Groups -/

namespace Entry

theorem within_eq_ok {α : Type} {step : KeyStep} {x : Except SettingsFault α} {a : α} :
    within step x = .ok a ↔ x = .ok a := by
  cases x with
  | ok b => rfl
  | error e =>
    cases e with
    | mismatch m => simp [within]
    | _ => rfl

section Fields

variable {α β : Type} {take : Setter α} {name : String}

/-- A member of a group that has a field to itself. -/
structure Field (take : Setter α) (name : String) (read : Entry → Except SettingsFault β)
    (get : α → β) : Prop where
  /-- The member is read into the field. -/
  own : ∀ {s entry s'}, take s name entry = .ok s' → read entry = .ok (get s')
  /-- Other members leave the field as it is. -/
  kept : ∀ {s other entry s'}, other ≠ name → take s other entry = .ok s' → get s' = get s

/-- What a field holds once the entry at its place was read: what was read, or what it held. -/
def Holds (read : Entry → Except SettingsFault β) (before after : β) : Option Entry → Prop
  | some entry => read entry = .ok after
  | none => after = before

/-- What stands in for an entry may be left out, if it is read as what the field held. -/
theorem Holds.of_or {read : Entry → Except SettingsFault β} {before after : β}
    {found default : Option Entry} (h : Holds read before after (found.or default))
    (hdefault : ∀ entry ∈ default, read entry = .ok before) : Holds read before after found := by
  cases found with
  | some entry => exact h
  | none =>
    cases default with
    | none => exact h
    | some entry =>
      rw [Option.none_or, Holds, hdefault entry rfl] at h
      exact (Except.ok.inj h).symm

theorem Field.setMembers {read : Entry → Except SettingsFault β} {get : α → β}
    (h : Field take name read get) {ms : List (String × Entry)} (hms : Ascending ms) {s s' : α}
    (hs : Entry.setMembers take s ms = .ok s') :
    Holds read (get s) (get s') (findPair? name ms) := by
  induction ms generalizing s with
  | nil =>
    cases hs
    rfl
  | cons m rest ih =>
    obtain ⟨other, entry⟩ := m
    obtain ⟨hhead, hrest⟩ := List.pairwise_cons.1 hms
    rw [Entry.setMembers] at hs
    obtain ⟨next, hnext, hs⟩ := bind_eq_ok.1 hs
    rw [within_eq_ok] at hnext
    have hlater := ih hrest hs
    rw [findPair?]
    by_cases hname : name = other
    · subst hname
      -- Names ascend, so no later member has this name, and the field is left as it was read.
      have hnone : findPair? name rest = none := by
        rw [Option.eq_none_iff_forall_ne_some]
        intro later hmem
        exact String.lt_irrefl name (hhead (name, later) ((findPair?_eq_some hrest).1 hmem))
      rw [hnone] at hlater
      rw [if_pos rfl, Holds, hlater]
      exact h.own hnext
    · rw [if_neg hname]
      rwa [h.kept (Ne.symm hname) hnext] at hlater

theorem exists_setMembers {ms : List (String × Entry)}
    (h : ∀ m ∈ ms, ∀ s, ∃ s', take s m.1 m.2 = .ok s') (s : α) :
    ∃ s', Entry.setMembers take s ms = .ok s' := by
  induction ms generalizing s with
  | nil => exact ⟨s, rfl⟩
  | cons m rest ih =>
    obtain ⟨hm, hrest⟩ := List.forall_mem_cons.1 h
    obtain ⟨next, hnext⟩ := hm s
    obtain ⟨s', hs'⟩ := ih hrest next
    refine ⟨s', ?_⟩
    rw [Entry.setMembers, hnext]
    exact hs'

theorem readGroup_eq {title : String} {names : List String} {defaults : α} {group : Entry}
    (h : group.IsGroup) :
    readGroup title names take defaults group = Entry.setMembers take defaults group.members := by
  obtain ⟨origin, members, rfl⟩ := isGroup_iff.1 h
  rfl

/-- A group is read if its members can be taken in, and then each field is read from its member. -/
theorem exists_readMembers {defaults : α} {group : Entry} (hgroup : group.Tidy)
    (h : ∀ name, ∀ entry ∈ group.member? name, ∀ s, ∃ s', take s name entry = .ok s') :
    ∃ s, Entry.setMembers take defaults group.members = .ok s ∧
      ∀ {γ : Type} {name : String} {read : Entry → Except SettingsFault γ} {get : α → γ},
        Field take name read get → Holds read (get defaults) (get s) (group.member? name) := by
  obtain ⟨s, hs⟩ := exists_setMembers (fun m hm =>
    h m.1 m.2 ((findPair?_eq_some hgroup.ascending).2 hm)) defaults
  exact ⟨s, hs, fun hfield => hfield.setMembers hgroup.ascending hs⟩

end Fields

/-! ## Maps of texts -/

theorem mapM_readText {ms : List (String × Entry)} {pairs : List (String × String)}
    (h : (ms.mapM fun (name, entry) => do
      return (name, ← within (.field name) entry.readText)) = .ok pairs) :
    List.Forall₂ (Paired fun _ (entry : Entry) text => entry.readText = .ok text) ms pairs := by
  refine (mapM_eq_ok.1 h).imp fun m pair hpair => ?_
  obtain ⟨text, htext, hpair⟩ := bind_eq_ok.1 hpair
  cases hpair
  exact ⟨rfl, within_eq_ok.1 htext⟩

/-- Each text of a map is read from the entry under its name. -/
theorem readTextMap_holds {entry : Entry} {map : KeyMap String} (h : entry.readTextMap = .ok map)
    (hascending : Ascending entry.members) (name : String) :
    Holds (fun e => e.readText.map some) none (map.get? name) (entry.member? name) := by
  cases entry with
  | leaf origin leaf => cases h
  | list origin items => cases h
  | group origin members =>
    obtain ⟨pairs, hpairs, h⟩ := bind_eq_ok.1 h
    cases h
    have hpaired := mapM_readText hpairs
    -- The pairs ascend as the members do, so they are the map as it stands.
    have hmap : KeyMap.ofList pairs = ⟨pairs, ascending_of_paired hpaired hascending⟩ :=
      KeyMap.ofList_toList ⟨pairs, _⟩
    have hfound := rel_findPair? hpaired name
    rw [hmap, KeyMap.get?, member?, Entry.members]
    cases hmember : findPair? name members with
    | none =>
      rw [hmember] at hfound
      cases hfound' : findPair? name pairs with
      | none => rfl
      | some text =>
        rw [hfound'] at hfound
        cases hfound
    | some e =>
      rw [hmember] at hfound
      cases hfound' : findPair? name pairs with
      | none =>
        rw [hfound'] at hfound
        cases hfound
      | some text =>
        rw [hfound'] at hfound
        cases hfound with
        | some hread =>
          rw [Holds, hread]
          rfl

theorem exists_readTextMap {entry : Entry} (hgroup : entry.IsGroup)
    (h : ∀ m ∈ entry.members, ∃ text, m.2.readText = .ok text) :
    ∃ map, entry.readTextMap = .ok map := by
  obtain ⟨origin, members, rfl⟩ := isGroup_iff.1 hgroup
  have hread : ∀ m ∈ members, ∃ pair, (do
      return (m.1, ← within (.field m.1) m.2.readText) : Except SettingsFault _) = .ok pair := by
    intro m hm
    obtain ⟨text, htext⟩ := h m hm
    exact ⟨(m.1, text), by rw [within_eq_ok.2 htext]; rfl⟩
  obtain ⟨pairs, hpairs⟩ := exists_mapM_eq_ok hread
  exact ⟨KeyMap.ofList pairs, bind_eq_ok.2 ⟨pairs, hpairs, rfl⟩⟩

end Entry

/-! ## Settings -/

/-- A single setting. -/
inductive Setting where
  | language
  | artifacts
  | snippets
  | outputDir
  | frozenTimestamp
  | level
  | format
  | output
  | file
  | color
  /-- The level for the part of the program with a name, which is small. -/
  | module (name : String)

namespace Setting

/-- What a setting may be. -/
def Value : Setting → Type
  | .language | .level | .format | .output | .file => String
  | .artifacts | .snippets => List String
  | .outputDir | .module _ => Option String
  | .frozenTimestamp => Option Timestamp
  | .color => Bool

/-- The groups around a setting. -/
def groups : Setting → List String
  | .language | .artifacts | .snippets | .outputDir | .frozenTimestamp => ["generation"]
  | .level | .format | .output | .file | .color => ["logging"]
  | .module _ => ["logging", "modules"]

/-- The name of a setting in its group. -/
def name : Setting → String
  | .language => "language"
  | .artifacts => "artifacts"
  | .snippets => "snippets"
  | .outputDir => "output_dir"
  | .frozenTimestamp => "frozen_timestamp"
  | .level => "level"
  | .format => "format"
  | .output => "output"
  | .file => "file"
  | .color => "color"
  | .module name => name

/-- How a setting is read from an entry. -/
def read : (k : Setting) → Entry → Except SettingsFault k.Value
  | .language, entry | .level, entry | .format, entry | .output, entry | .file, entry =>
      entry.readText
  | .artifacts, entry | .snippets, entry => entry.readTexts
  | .outputDir, entry => entry.readOptional Entry.readText
  | .frozenTimestamp, entry => entry.readOptional Entry.readTimestamp
  | .color, entry => entry.readBool
  | .module _, entry => entry.readText.map some

/-- What a setting is. -/
def value : (k : Setting) → Settings → k.Value
  | .language, s => s.generation.language
  | .artifacts, s => s.generation.artifacts
  | .snippets, s => s.generation.snippets
  | .outputDir, s => s.generation.outputDir
  | .frozenTimestamp, s => s.generation.frozenTimestamp
  | .level, s => s.logging.level
  | .format, s => s.logging.format
  | .output, s => s.logging.output
  | .file, s => s.logging.file
  | .color, s => s.logging.color
  | .module name, s => s.logging.modules.get? name

/-- What stands at the place of a setting. -/
def stands (k : Setting) (root : Entry) : Option Entry :=
  (root.descend k.groups).member? k.name

end Setting

/-! ## The groups of settings -/

open Entry (Field Holds)

/-- A branch that reads a field was taken, or another one was. -/
theorem field_or_rest {ε α β : Type} {p : Prop} [Decidable p] {x : Except ε α} {f : α → β}
    {rest : Except ε β} {b : β} (h : (if p then (do return f (← x)) else rest) = .ok b) :
    (p ∧ ∃ a, x = .ok a ∧ b = f a) ∨ rest = .ok b := by
  split at h
  · rename_i hp
    obtain ⟨a, ha, hb⟩ := bind_eq_ok.1 h
    cases hb
    exact .inl ⟨hp, a, ha, rfl⟩
  · exact .inr h

theorem exists_field {ε α β : Type} {x : Except ε α} (h : ∃ a, x = .ok a) (f : α → β) :
    ∃ b, (do return f (← x)) = (.ok b : Except ε β) := by
  obtain ⟨a, rfl⟩ := h
  exact ⟨f a, rfl⟩

namespace GenerationSettings

/-- What taking in a member can do. -/
theorem setEntry_cases {s s' : GenerationSettings} {name : String} {entry : Entry}
    (h : setEntry s name entry = .ok s') :
    (name = "language" ∧ ∃ v, entry.readText = .ok v ∧ s' = { s with language := v }) ∨
      (name = "artifacts" ∧ ∃ v, entry.readTexts = .ok v ∧ s' = { s with artifacts := v }) ∨
      (name = "snippets" ∧ ∃ v, entry.readTexts = .ok v ∧ s' = { s with snippets := v }) ∨
      (name = "output_dir" ∧ ∃ v, entry.readOptional Entry.readText = .ok v ∧
        s' = { s with outputDir := v }) ∨
      (name = "frozen_timestamp" ∧ ∃ v, entry.readOptional Entry.readTimestamp = .ok v ∧
        s' = { s with frozenTimestamp := v }) ∨
      s' = s := by
  refine (field_or_rest h).imp_right fun h => ?_
  refine (field_or_rest h).imp_right fun h => ?_
  refine (field_or_rest h).imp_right fun h => ?_
  refine (field_or_rest h).imp_right fun h => ?_
  refine (field_or_rest h).imp_right fun h => ?_
  cases h
  rfl

/-- A member can be taken in if the settings of its name can be read from it. -/
theorem exists_setEntry {name : String} {entry : Entry}
    (h : ∀ k : Setting, k.groups = ["generation"] → k.name = name → ∃ v, k.read entry = .ok v)
    (s : GenerationSettings) : ∃ s', setEntry s name entry = .ok s' := by
  rw [setEntry]
  split
  · rename_i hname
    exact exists_field (h .language rfl hname.symm) _
  split
  · rename_i hname
    exact exists_field (h .artifacts rfl hname.symm) _
  split
  · rename_i hname
    exact exists_field (h .snippets rfl hname.symm) _
  split
  · rename_i hname
    exact exists_field (h .outputDir rfl hname.symm) _
  split
  · rename_i hname
    exact exists_field (h .frozenTimestamp rfl hname.symm) _
  · exact ⟨s, rfl⟩

/-- Each setting of generation has a field. -/
theorem field_setEntry {k : Setting} (h : k.groups = ["generation"]) :
    Field setEntry k.name k.read fun s => k.value { generation := s } := by
  constructor
  · intro s entry s' hs
    cases k with
    | language | artifacts | snippets | outputDir | frozenTimestamp =>
      obtain ⟨v, hv, hs⟩ := bind_eq_ok.1 hs
      cases hs
      exact hv
    | level | format | output | file | color | module => simp [Setting.groups] at h
  · intro s other entry s' hne hs
    rcases setEntry_cases hs with ⟨rfl, v, _, rfl⟩ | ⟨rfl, v, _, rfl⟩ | ⟨rfl, v, _, rfl⟩ |
        ⟨rfl, v, _, rfl⟩ | ⟨rfl, v, _, rfl⟩ | rfl
    all_goals cases k
    all_goals first
      | rfl
      | exact absurd rfl hne

/-- A group is read if each setting of generation can be read from its member. -/
theorem exists_ofEntry {group : Entry} (hgroup : group.Tidy)
    (h : ∀ k : Setting, k.groups = ["generation"] → ∀ entry ∈ group.member? k.name,
      ∃ v, k.read entry = .ok v) :
    ∃ s, ofEntry group = .ok s ∧ ∀ k : Setting, k.groups = ["generation"] →
      Holds k.read (k.value {}) (k.value { generation := s }) (group.member? k.name) := by
  obtain ⟨s, hs, hfields⟩ := Entry.exists_readMembers hgroup fun name entry hentry =>
    exists_setEntry fun k hk hname => h k hk entry (hname ▸ hentry)
  exact ⟨s, (Entry.readGroup_eq hgroup.group).trans hs, fun k hk => hfields (field_setEntry hk)⟩

end GenerationSettings

namespace LoggingSettings

/-- What taking in a member can do. -/
theorem setEntry_cases {s s' : LoggingSettings} {name : String} {entry : Entry}
    (h : setEntry s name entry = .ok s') :
    (name = "level" ∧ ∃ v, entry.readText = .ok v ∧ s' = { s with level := v }) ∨
      (name = "format" ∧ ∃ v, entry.readText = .ok v ∧ s' = { s with format := v }) ∨
      (name = "output" ∧ ∃ v, entry.readText = .ok v ∧ s' = { s with output := v }) ∨
      (name = "file" ∧ ∃ v, entry.readText = .ok v ∧ s' = { s with file := v }) ∨
      (name = "color" ∧ ∃ v, entry.readBool = .ok v ∧ s' = { s with color := v }) ∨
      (name = "modules" ∧ ∃ v, entry.readTextMap = .ok v ∧ s' = { s with modules := v }) ∨
      s' = s := by
  refine (field_or_rest h).imp_right fun h => ?_
  refine (field_or_rest h).imp_right fun h => ?_
  refine (field_or_rest h).imp_right fun h => ?_
  refine (field_or_rest h).imp_right fun h => ?_
  refine (field_or_rest h).imp_right fun h => ?_
  refine (field_or_rest h).imp_right fun h => ?_
  cases h
  rfl

/-- A member can be taken in if the settings of its name can be read from it. -/
theorem exists_setEntry {name : String} {entry : Entry}
    (h : ∀ k : Setting, k.groups = ["logging"] → k.name = name → ∃ v, k.read entry = .ok v)
    (hmodules : name = "modules" → ∃ map, entry.readTextMap = .ok map) (s : LoggingSettings) :
    ∃ s', setEntry s name entry = .ok s' := by
  rw [setEntry]
  split
  · rename_i hname
    exact exists_field (h .level rfl hname.symm) _
  split
  · rename_i hname
    exact exists_field (h .format rfl hname.symm) _
  split
  · rename_i hname
    exact exists_field (h .output rfl hname.symm) _
  split
  · rename_i hname
    exact exists_field (h .file rfl hname.symm) _
  split
  · rename_i hname
    exact exists_field (h .color rfl hname.symm) _
  split
  · rename_i hname
    exact exists_field (hmodules hname) _
  · exact ⟨s, rfl⟩

/-- Each setting of logging has a field. -/
theorem field_setEntry {k : Setting} (h : k.groups = ["logging"]) :
    Field setEntry k.name k.read fun s => k.value { logging := s } := by
  constructor
  · intro s entry s' hs
    cases k with
    | level | format | output | file | color =>
      obtain ⟨v, hv, hs⟩ := bind_eq_ok.1 hs
      cases hs
      exact hv
    | language | artifacts | snippets | outputDir | frozenTimestamp | module =>
      simp [Setting.groups] at h
  · intro s other entry s' hne hs
    rcases setEntry_cases hs with ⟨rfl, v, _, rfl⟩ | ⟨rfl, v, _, rfl⟩ | ⟨rfl, v, _, rfl⟩ |
        ⟨rfl, v, _, rfl⟩ | ⟨rfl, v, _, rfl⟩ | ⟨rfl, v, _, rfl⟩ | rfl
    all_goals cases k
    all_goals first
      | rfl
      | exact absurd rfl hne
      | simp [Setting.groups] at h

/-- The levels for parts of the program have a field together. -/
theorem field_modules : Field setEntry "modules" Entry.readTextMap LoggingSettings.modules := by
  constructor
  · intro s entry s' hs
    obtain ⟨v, hv, hs⟩ := bind_eq_ok.1 hs
    cases hs
    exact hv
  · intro s other entry s' hne hs
    rcases setEntry_cases hs with ⟨rfl, v, _, rfl⟩ | ⟨rfl, v, _, rfl⟩ | ⟨rfl, v, _, rfl⟩ |
        ⟨rfl, v, _, rfl⟩ | ⟨rfl, v, _, rfl⟩ | ⟨rfl, v, _, rfl⟩ | rfl
    all_goals first
      | rfl
      | exact absurd rfl hne

/-- A group is read if each setting of logging can be read from its member, and each level for a
part of the program from its member one group further in. -/
theorem exists_ofEntry {group : Entry} (hgroup : group.Tidy)
    (h : ∀ k : Setting, k.groups = ["logging"] → ∀ entry ∈ group.member? k.name,
      ∃ v, k.read entry = .ok v)
    (hmodules : ∀ modules ∈ group.member? "modules", modules.Tidy ∧
      ∀ m ∈ modules.members, ∃ text, m.2.readText = .ok text) :
    ∃ s, ofEntry group = .ok s ∧
      (∀ k : Setting, k.groups = ["logging"] →
        Holds k.read (k.value {}) (k.value { logging := s }) (group.member? k.name)) ∧
      ∀ name, Holds (Setting.module name).read none (s.modules.get? name)
        ((group.child "modules").member? name) := by
  obtain ⟨s, hs, hfields⟩ := Entry.exists_readMembers hgroup fun name entry hentry =>
    exists_setEntry (fun k hk hname => h k hk entry (hname ▸ hentry)) fun hname => by
      obtain ⟨htidy, htexts⟩ := hmodules entry (hname ▸ hentry)
      exact Entry.exists_readTextMap htidy.group htexts
  refine ⟨s, (Entry.readGroup_eq hgroup.group).trans hs, fun k hk => hfields (field_setEntry hk),
    fun name => ?_⟩
  have hmap := hfields field_modules
  cases hfound : group.member? "modules" with
  | none =>
    have hchild : group.child "modules" = .emptyGroup := by
      rw [Entry.child, hfound]
      rfl
    rw [hfound] at hmap
    rw [hchild, hmap]
    rfl
  | some modules =>
    rw [hfound] at hmap
    rw [Entry.child_of_member? hfound]
    exact Entry.readTextMap_holds hmap (hmodules modules hfound).1.ascending name

end LoggingSettings

namespace Setting

/-- The settings other than the levels for parts of the program. -/
def single : List Setting :=
  [.language, .artifacts, .snippets, .outputDir, .frozenTimestamp, .level, .format, .output, .file,
    .color]

theorem mem_single_or (k : Setting) : k ∈ single ∨ ∃ name, k = .module name := by
  cases k with
  | module name => exact .inr ⟨name, rfl⟩
  | _ => exact .inl (by simp [single])

theorem groups_cases (k : Setting) :
    k.groups = ["generation"] ∨ k.groups = ["logging"] ∨ ∃ name, k = .module name := by
  cases k with
  | language | artifacts | snippets | outputDir | frozenTimestamp => exact .inl rfl
  | level | format | output | file | color => exact .inr (.inl rfl)
  | module name => exact .inr (.inr ⟨name, rfl⟩)

theorem value_generation {k : Setting} (h : k.groups = ["generation"]) (s : Settings) :
    k.value { generation := s.generation } = k.value s := by
  cases k with
  | language | artifacts | snippets | outputDir | frozenTimestamp => rfl
  | level | format | output | file | color | module => simp [groups] at h

theorem value_logging {k : Setting} (h : k.groups = ["logging"]) (s : Settings) :
    k.value { logging := s.logging } = k.value s := by
  cases k with
  | level | format | output | file | color => rfl
  | language | artifacts | snippets | outputDir | frozenTimestamp | module => simp [groups] at h

end Setting

namespace Settings

/-- What taking in a member can do. -/
theorem setEntry_cases {s s' : Settings} {name : String} {entry : Entry}
    (h : setEntry s name entry = .ok s') :
    (name = "generation" ∧ ∃ v, GenerationSettings.ofEntry entry = .ok v ∧
        s' = { s with generation := v }) ∨
      (name = "logging" ∧ ∃ v, LoggingSettings.ofEntry entry = .ok v ∧
        s' = { s with logging := v }) ∨
      s' = s := by
  refine (field_or_rest h).imp_right fun h => ?_
  refine (field_or_rest h).imp_right fun h => ?_
  cases h
  rfl

theorem field_generation : Field setEntry "generation" GenerationSettings.ofEntry generation := by
  constructor
  · intro s entry s' hs
    obtain ⟨v, hv, hs⟩ := bind_eq_ok.1 hs
    cases hs
    exact hv
  · intro s other entry s' hne hs
    rcases setEntry_cases hs with ⟨rfl, v, _, rfl⟩ | ⟨rfl, v, _, rfl⟩ | rfl
    · exact absurd rfl hne
    · rfl
    · rfl

theorem field_logging : Field setEntry "logging" LoggingSettings.ofEntry logging := by
  constructor
  · intro s entry s' hs
    obtain ⟨v, hv, hs⟩ := bind_eq_ok.1 hs
    cases hs
    exact hv
  · intro s other entry s' hne hs
    rcases setEntry_cases hs with ⟨rfl, v, _, rfl⟩ | ⟨rfl, v, _, rfl⟩ | rfl
    · rfl
    · exact absurd rfl hne
    · rfl

theorem exists_setEntry {name : String} {entry : Entry}
    (hgeneration : name = "generation" → ∃ v, GenerationSettings.ofEntry entry = .ok v)
    (hlogging : name = "logging" → ∃ v, LoggingSettings.ofEntry entry = .ok v) (s : Settings) :
    ∃ s', setEntry s name entry = .ok s' := by
  rw [setEntry]
  split
  · rename_i hname
    exact exists_field (hgeneration hname) _
  split
  · rename_i hname
    exact exists_field (hlogging hname) _
  · exact ⟨s, rfl⟩

/-- Settings are read from their two groups. -/
theorem ofEntry_eq {root generation logging : Entry} (hroot : root.Tidy)
    (hgeneration : root.member? "generation" = some generation)
    (hlogging : root.member? "logging" = some logging) {g : GenerationSettings}
    {l : LoggingSettings} (hg : GenerationSettings.ofEntry generation = .ok g)
    (hl : LoggingSettings.ofEntry logging = .ok l) : ofEntry root = .ok ⟨g, l⟩ := by
  have htaken : ∀ name, ∀ entry ∈ root.member? name, ∀ s, ∃ s', setEntry s name entry = .ok s' := by
    intro name entry hentry
    refine exists_setEntry (fun hname => ⟨g, ?_⟩) fun hname => ⟨l, ?_⟩
    · rw [hname, hgeneration] at hentry
      cases hentry
      exact hg
    · rw [hname, hlogging] at hentry
      cases hentry
      exact hl
  obtain ⟨s, hs, hfields⟩ := Entry.exists_readMembers hroot htaken
  have hsg := hfields field_generation
  have hsl := hfields field_logging
  rw [hgeneration, Holds, hg] at hsg
  rw [hlogging, Holds, hl] at hsl
  cases hsg
  cases hsl
  exact (Entry.readGroup_eq hroot.group).trans hs

/-- Settings are read if each can be read from what stands at its place. -/
theorem exists_ofEntry {root generation logging : Entry} (hroot : root.Tidy)
    (hgeneration : root.member? "generation" = some generation) (hgeneration' : generation.Tidy)
    (hlogging : root.member? "logging" = some logging) (hlogging' : logging.Tidy)
    (hmodules : ∀ modules ∈ logging.member? "modules", modules.Tidy)
    (hread : ∀ k : Setting, ∀ entry ∈ k.stands root, ∃ v, k.read entry = .ok v) :
    ∃ s, ofEntry root = .ok s ∧
      ∀ k : Setting, Holds k.read (k.value {}) (k.value s) (k.stands root) := by
  have hinGeneration : ∀ k : Setting, k.groups = ["generation"] →
      k.stands root = generation.member? k.name := by
    intro k hk
    rw [← Entry.child_of_member? hgeneration, Setting.stands, hk]
    rfl
  have hinLogging : ∀ k : Setting, k.groups = ["logging"] →
      k.stands root = logging.member? k.name := by
    intro k hk
    rw [← Entry.child_of_member? hlogging, Setting.stands, hk]
    rfl
  have hinModules : ∀ name, (Setting.module name).stands root =
      (logging.child "modules").member? name := by
    intro name
    rw [← Entry.child_of_member? hlogging]
    rfl
  have htexts : ∀ modules ∈ logging.member? "modules", modules.Tidy ∧
      ∀ m ∈ modules.members, ∃ text, m.2.readText = .ok text := by
    intro modules hfound
    refine ⟨hmodules modules hfound, fun m hm => ?_⟩
    have hstands : (Setting.module m.1).stands root = some m.2 := by
      rw [hinModules, Entry.child_of_member? hfound]
      exact (findPair?_eq_some (hmodules modules hfound).ascending).2 hm
    obtain ⟨v, hv⟩ := hread (.module m.1) m.2 hstands
    obtain ⟨text, htext, _⟩ := map_eq_ok.1 hv
    exact ⟨text, htext⟩
  obtain ⟨g, hg, hgvalues⟩ := GenerationSettings.exists_ofEntry hgeneration'
    fun k hk entry hentry => hread k entry (hinGeneration k hk ▸ hentry)
  obtain ⟨l, hl, hlvalues, hmvalues⟩ := LoggingSettings.exists_ofEntry hlogging'
    (fun k hk entry hentry => hread k entry (hinLogging k hk ▸ hentry)) htexts
  refine ⟨⟨g, l⟩, ofEntry_eq hroot hgeneration hlogging hg hl, fun k => ?_⟩
  rcases k.groups_cases with hk | hk | ⟨name, rfl⟩
  · rw [hinGeneration k hk, ← Setting.value_generation hk ⟨g, l⟩]
    exact hgvalues k hk
  · rw [hinLogging k hk, ← Setting.value_logging hk ⟨g, l⟩]
    exact hlvalues k hk
  · rw [hinModules]
    exact hmvalues name

end Settings

end SampleForge
