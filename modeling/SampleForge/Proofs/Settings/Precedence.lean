import SampleForge.Proofs.Settings.KeyExpression
import SampleForge.Proofs.Settings.Reading
import SampleForge.Settings.Load

/-!
# Which source decides a setting

The sources of settings are ranked: the environment, the file for the stage of work, the file of the
workspace, the file of the user.  The first of these that says anything of a setting decides it, and
what the others say of it does not matter (`load_by_rank`).  If none does, the setting has its
default.

This is asked of each setting alone, so a list is decided as a whole, and the levels for parts of
the program are decided one by one.
-/

namespace SampleForge

open Outcome

/-! ## What a source says -/

/-- Whether a source has plain keys and gives only groups where there are groups of settings. -/
structure ProperSource (source : List (String × Entry)) : Prop where
  /-- The keys are plain. -/
  plain : ∀ entry ∈ source, KeyMove.IsPlain entry.1
  /-- The settings of generation are in groups. -/
  generation : Entry.Grouped ["generation"] (Entry.tree source)
  /-- The settings of logging are in groups, and so are the levels for parts of the program. -/
  logging : Entry.Grouped ["logging", "modules"] (Entry.tree source)

theorem ProperSource.grouped {source : List (String × Entry)} (h : ProperSource source) (k : Setting) :
    Entry.Grouped k.groups (Entry.tree source) := by
  rcases k.groups_cases with hk | hk | ⟨name, rfl⟩
  · rw [hk]
    exact h.generation
  · rw [hk]
    exact ⟨h.logging.1, trivial⟩
  · exact h.logging

namespace Setting

/-- What a source says of a setting. -/
def said (k : Setting) (source : List (String × Entry)) : List Entry :=
  Entry.named k.name (Entry.insideAll k.groups (Entry.tree source))

/-- What the first of some ranked sources to say anything of a setting says last. -/
def decided (k : Setting) (ranked : List (List (String × Entry))) : Option Entry :=
  ranked.findSome? fun source => (k.said source).getLast?

/-- What decides a setting is a member inside its groups in one of the sources. -/
theorem mem_of_decided {k : Setting} {ranked : List (List (String × Entry))} {entry : Entry}
    (h : k.decided ranked = some entry) :
    ∃ source ∈ ranked, ∃ m ∈ Entry.insideAll k.groups (Entry.tree source), m.2 = entry := by
  obtain ⟨source, hsource, hlast⟩ := List.exists_of_findSome?_eq_some h
  obtain ⟨m, hm, _, hentry⟩ := Entry.mem_named.1 (List.mem_of_getLast? hlast)
  exact ⟨source, hsource, m, hm, hentry⟩

/-- An entry that a setting is read from is no group. -/
theorem not_isGroup_of_read {k : Setting} {entry : Entry} {v : k.Value}
    (h : k.read entry = .ok v) : ¬ entry.IsGroup := by
  intro hgroup
  obtain ⟨origin, members, rfl⟩ := Entry.isGroup_iff.1 hgroup
  cases k <;> cases h

/-- What stands at the place of a setting once sources were merged and put onto a root. -/
theorem stands_onto {k : Setting} {sources : List (List (String × Entry))}
    (h : ∀ source ∈ sources, ProperSource source)
    (hread : ∀ entry ∈ k.decided sources.reverse, ∃ v, k.read entry = .ok v) (root : Entry) :
    k.stands (Entry.onto root (sources.flatMap Entry.tree)) =
      (k.decided sources.reverse).or (k.stands root) := by
  have hgrouped : Entry.Grouped k.groups (sources.flatMap Entry.tree) :=
    Entry.grouped_flatMap sources Entry.tree fun source hsource => (h source hsource).grouped k
  have hsaid : (Entry.named k.name (Entry.insideAll k.groups
      (sources.flatMap Entry.tree))).getLast? = k.decided sources.reverse := by
    rw [Entry.insideAll_flatMap, Entry.named_flatMap, List.getLast?_flatMap]
    rfl
  rw [stands, Entry.descend_onto hgrouped, Entry.member?_onto, hsaid]
  · rfl
  · rw [hsaid]
    intro entry hentry
    obtain ⟨v, hv⟩ := hread entry hentry
    exact not_isGroup_of_read hv

/-- The default of a setting is what is read from the entries of the defaults. -/
theorem read_default (k : Setting) :
    ∀ entry ∈ k.stands Settings.defaultEntries, k.read entry = .ok (k.value {}) := by
  cases k with
  | language | artifacts | snippets | level | format | output =>
    rintro entry ⟨⟩
    rfl
  | outputDir | frozenTimestamp | file | color | module => rintro entry ⟨⟩

end Setting

/-! ## Layers -/

namespace Settings

open Entry (Holds)

theorem tidy_defaultEntries : defaultEntries.Tidy where
  group := trivial
  ascending := by unfold Ascending; decide +kernel
  small := by decide +kernel

theorem tidy_defaultGeneration : (defaultEntries.child "generation").Tidy where
  group := trivial
  ascending := by unfold Ascending; decide +kernel
  small := by decide +kernel

theorem tidy_defaultLogging : (defaultEntries.child "logging").Tidy where
  group := trivial
  ascending := by unfold Ascending; decide +kernel
  small := by decide +kernel

/-- Each setting of layers is decided by the highest that says anything of it. -/
theorem exists_ofLayers {layers : List (List (String × Entry))}
    (h : ∀ source ∈ layers, ProperSource source)
    (hread : ∀ k : Setting, ∀ entry ∈ k.decided layers.reverse, ∃ v, k.read entry = .ok v) :
    ∃ s, ofLayers layers = .ok s ∧
      ∀ k : Setting, Holds k.read (k.value {}) (k.value s) (k.decided layers.reverse) := by
  have hplain : ∀ source ∈ layers, ∀ entry ∈ source, KeyMove.IsPlain entry.1 :=
    fun source hsource => (h source hsource).plain
  have hgeneration : Entry.Grouped ["generation"] (layers.flatMap Entry.tree) :=
    Entry.grouped_flatMap layers Entry.tree fun source hsource => (h source hsource).generation
  have hlogging : Entry.Grouped ["logging", "modules"] (layers.flatMap Entry.tree) :=
    Entry.grouped_flatMap layers Entry.tree fun source hsource => (h source hsource).logging
  -- The defaults have no levels for parts of the program, so these start from the empty group.
  have hmodules : ∀ modules ∈ (Entry.onto (defaultEntries.child "logging")
      (Entry.inside "logging" (layers.flatMap Entry.tree))).member? "modules", modules.Tidy := by
    intro modules hfound
    rw [← Entry.child_of_member? hfound, Entry.child_onto hlogging.2.1]
    exact Entry.tidy_emptyGroup.onto _
  have hstands := fun k : Setting => k.stands_onto h (hread k) defaultEntries
  have hreadable : ∀ k : Setting, ∀ entry ∈
      k.stands (Entry.onto defaultEntries (layers.flatMap Entry.tree)),
      ∃ v, k.read entry = .ok v := by
    intro k entry hentry
    rw [hstands, Option.mem_def, Option.or_eq_some_iff] at hentry
    rcases hentry with hdecided | ⟨_, hdefault⟩
    · exact hread k entry hdecided
    · exact ⟨_, k.read_default entry hdefault⟩
  obtain ⟨s, hs, hvalues⟩ := exists_ofEntry (tidy_defaultEntries.onto _)
    (Entry.member?_onto_group hgeneration.1 rfl) (tidy_defaultGeneration.onto _)
    (Entry.member?_onto_group hlogging.1 rfl) (tidy_defaultLogging.onto _) hmodules hreadable
  refine ⟨s, ?_, fun k => ?_⟩
  · rw [ofLayers, Entry.writeAll_members hplain]
    exact hs
  · have hvalue := hvalues k
    rw [hstands] at hvalue
    exact hvalue.of_or k.read_default

end Settings

/-! ## Sources -/

/-- The entries of the file at a path, none if there is no file. -/
def SourceFile.entriesAt (tree : FileTree) (path : String) :
    Except SettingsFault (List (String × Entry)) :=
  if tree.holds path then readIfUsable tree path else .ok []

/-- What the sources of the settings for a workspace say. -/
structure Sources where
  /-- The file of the user. -/
  user : List (String × Entry)
  /-- The file of the workspace. -/
  base : List (String × Entry)
  /-- The file of the workspace for the stage of work. -/
  staged : List (String × Entry)
  /-- The environment. -/
  environment : List (String × Entry)

theorem exists_of_isSome {ε α : Type} {x : Except ε α} (h : x.toOption.isSome = true) :
    ∃ a, x = .ok a := by
  cases x with
  | error e => cases h
  | ok a => exact ⟨a, rfl⟩

namespace Sources

/-- The sources, the highest first. -/
def ranked (sources : Sources) : List (List (String × Entry)) :=
  [sources.environment, sources.staged, sources.base, sources.user]

/-- The entries of the file of the user. -/
def userEntries (around : Surroundings) : Except SettingsFault (List (String × Entry)) :=
  match around.environment.userFile? with
  | some path => SourceFile.entriesAt around.tree path
  | none => .ok []

/-- The sources of the settings for a workspace. -/
def find (around : Surroundings) (workspace : String) : Except SettingsFault Sources := do
  let folder := Path.join workspace "config"
  let user ← userEntries around
  let base ← SourceFile.entriesAt around.tree (Path.join folder "config.toml")
  let staged ←
    SourceFile.entriesAt around.tree (Path.join folder (around.environment.stage ++ ".toml"))
  return { user, base, staged, environment := around.environment.entries }

/-- Sources that settings can be read from. -/
structure Usable (sources : Sources) : Prop where
  /-- Each has plain keys, and groups where there are groups of settings. -/
  proper : ∀ source ∈ sources.ranked, ProperSource source
  /-- What decides a setting is of its type. -/
  readable : ∀ k : Setting, ∀ entry ∈ k.decided sources.ranked, ∃ v, k.read entry = .ok v

/-- Whether sources are found to be usable, when the level for each part of the program can be
read wherever it is given. -/
def check (sources : Sources) : Bool :=
  (∀ source ∈ sources.ranked, (∀ entry ∈ source, KeyMove.IsPlain entry.1) ∧
    Entry.Grouped ["generation"] (Entry.tree source) ∧
    Entry.Grouped ["logging", "modules"] (Entry.tree source) ∧
    ∀ m ∈ Entry.insideAll ["logging", "modules"] (Entry.tree source),
      m.2.readText.toOption.isSome = true) ∧
  ∀ k ∈ Setting.single, ∀ entry ∈ k.decided sources.ranked, (k.read entry).toOption.isSome = true

theorem usable_of_check {sources : Sources} (h : sources.check = true) : sources.Usable := by
  obtain ⟨hsources, hsingle⟩ := of_decide_eq_true h
  constructor
  · intro source hsource
    obtain ⟨hplain, hgeneration, hlogging, _⟩ := hsources source hsource
    exact ⟨hplain, hgeneration, hlogging⟩
  · intro k entry hentry
    rcases k.mem_single_or with hk | ⟨name, rfl⟩
    · exact exists_of_isSome (hsingle k hk entry hentry)
    · obtain ⟨source, hsource, m, hm, rfl⟩ := Setting.mem_of_decided hentry
      obtain ⟨text, htext⟩ := exists_of_isSome ((hsources source hsource).2.2.2 m hm)
      exact ⟨some text, map_eq_ok.2 ⟨text, htext, rfl⟩⟩

end Sources

namespace Settings

open Entry (Holds)

/-- Files that are not there may be taken for empty ones. -/
theorem exists_mapM_readIfUsable {tree : FileTree} {paths : List String}
    {sources : List (List (String × Entry))}
    (h : paths.mapM (SourceFile.entriesAt tree) = .ok sources) :
    ∃ found, (paths.filter tree.holds).mapM (SourceFile.readIfUsable tree) = .ok found ∧
      ∀ root : Entry, found.foldl Entry.writeAll root = sources.foldl Entry.writeAll root := by
  induction paths generalizing sources with
  | nil =>
    cases h
    exact ⟨[], rfl, fun root => rfl⟩
  | cons path rest ih =>
    rw [List.mapM_cons] at h
    obtain ⟨source, hsource, h⟩ := bind_eq_ok.1 h
    obtain ⟨others, hothers, h⟩ := bind_eq_ok.1 h
    cases h
    obtain ⟨found, hfound, hwritten⟩ := ih hothers
    rw [SourceFile.entriesAt] at hsource
    split at hsource
    · rename_i hholds
      refine ⟨source :: found, ?_, fun root => hwritten (root.writeAll source)⟩
      rw [List.filter_cons_of_pos hholds, List.mapM_cons, hsource, bind_ok, hfound]
      rfl
    · rename_i hholds
      cases hsource
      refine ⟨found, ?_, fun root => hwritten root⟩
      rw [List.filter_cons_of_neg hholds, hfound]

theorem load_eq_ofLayers {around : Surroundings} {workspace : String} {sources : Sources}
    (h : Sources.find around workspace = .ok sources) :
    load around workspace = ofLayers sources.ranked.reverse := by
  obtain ⟨user, huser, h⟩ := bind_eq_ok.1 h
  obtain ⟨base, hbase, h⟩ := bind_eq_ok.1 h
  obtain ⟨staged, hstaged, h⟩ := bind_eq_ok.1 h
  cases h
  have hfiles : ∃ files, (layerFiles around.environment workspace).mapM
      (SourceFile.entriesAt around.tree) = .ok files ∧
      ∀ root : Entry, files.foldl Entry.writeAll root =
        [user, base, staged].foldl Entry.writeAll root := by
    rw [layerFiles, workspaceFiles]
    rw [Sources.userEntries] at huser
    cases hpath : around.environment.userFile? with
    | none =>
      rw [hpath] at huser
      cases huser
      refine ⟨[base, staged], ?_, fun root => rfl⟩
      simp [hbase, hstaged]
    | some path =>
      rw [hpath] at huser
      refine ⟨[user, base, staged], ?_, fun root => rfl⟩
      simp [huser, hbase, hstaged]
  obtain ⟨files, hfiles, hsame⟩ := hfiles
  obtain ⟨found, hfound, hwritten⟩ := exists_mapM_readIfUsable hfiles
  have hlayers : layers around workspace = .ok (found ++ [around.environment.entries]) := by
    rw [layers, hfound]
    rfl
  rw [load, hlayers, bind_ok, ofLayers, List.foldl_append, hwritten, hsame]
  rfl

/-- The first of the ranked sources of a workspace to say anything of a setting decides it.  Only
what it says must be of the type of the setting, and what the sources behind it say does not matter.
A setting that no source says anything of has its default. -/
theorem load_by_rank {around : Surroundings} {workspace : String} {sources : Sources}
    (h : Sources.find around workspace = .ok sources) (husable : sources.Usable) :
    ∃ s, load around workspace = .ok s ∧
      ∀ k : Setting, match k.decided sources.ranked with
        | some entry => k.read entry = .ok (k.value s)
        | none => k.value s = k.value {} := by
  have hproper : ∀ source ∈ sources.ranked.reverse, ProperSource source := fun source hsource =>
    husable.proper source (List.mem_reverse.1 hsource)
  have hreadable := husable.readable
  rw [← List.reverse_reverse sources.ranked] at hreadable ⊢
  obtain ⟨s, hs, hvalues⟩ := exists_ofLayers hproper hreadable
  refine ⟨s, (load_eq_ofLayers h).trans hs, fun k => ?_⟩
  have hvalue := hvalues k
  cases hdecided : k.decided sources.ranked.reverse.reverse with
  | none =>
    rw [hdecided] at hvalue
    exact hvalue
  | some entry =>
    rw [hdecided] at hvalue
    exact hvalue

/-- The file of the user tells the language, the file for the stage of work tells the artifacts in
the place of those of the user, the environment tells the level, and both files of the workspace
tell the level for a part of the program. -/
theorem load_by_rank_staged :
    let file (s : String) : Node := .file s.toByteArray.data.toList
    let tree : FileTree := {
      nodes := [(.ofNames ["w"], .directory), (.ofNames ["w", "config"], .directory),
        (.ofNames ["w", "samplegen"], .directory),
        (.ofNames ["w", "samplegen", "config.toml"],
          file "[generation]\nlanguage = 'python'\nartifacts = ['test']\n"),
        (.ofNames ["w", "config", "config.toml"],
          file "[logging]\nlevel = 'warn'\nmodules.Core = 'debug'\n"),
        (.ofNames ["w", "config", "ci.toml"],
          file "generation.artifacts = ['samples']\nlogging.modules.io = 'trace'\n")] }
    let around : Surroundings := {
      tree
      environment := ⟨[("SAMPLEGEN_ENV", "ci"), ("SAMPLEGEN__LOGGING__LEVEL", "error"),
        ("XDG_CONFIG_HOME", "/w")]⟩ }
    ∃ sources s, Sources.find around "/w" = .ok sources ∧ sources.Usable ∧
      load around "/w" = .ok s ∧
      s.generation.language = "python" ∧ s.generation.artifacts = ["samples"] ∧
      s.logging.level = "error" ∧ s.logging.format = "text" ∧
      s.logging.modules.get? "core" = some "debug" ∧
      s.logging.modules.get? "io" = some "trace" := by
  intro file tree around
  have hchecked : (Sources.find around "/w").toOption.any (fun sources =>
      sources.check && (ofLayers sources.ranked.reverse).toOption.all fun s =>
        s.generation.language = "python" ∧ s.generation.artifacts = ["samples"] ∧
          s.logging.level = "error" ∧ s.logging.format = "text" ∧
          s.logging.modules.get? "core" = some "debug" ∧
          s.logging.modules.get? "io" = some "trace") = true := by
    decide +kernel
  cases hfind : Sources.find around "/w" with
  | error fault =>
    rw [hfind] at hchecked
    cases hchecked
  | ok sources =>
    rw [hfind] at hchecked
    obtain ⟨hcheck, hvalues⟩ := (Bool.and_eq_true _ _).mp hchecked
    have husable : sources.Usable := Sources.usable_of_check hcheck
    obtain ⟨s, hs, _⟩ := load_by_rank hfind husable
    rw [← load_eq_ofLayers hfind, hs] at hvalues
    exact ⟨sources, s, rfl, husable, hs, of_decide_eq_true hvalues⟩

end Settings

end SampleForge
