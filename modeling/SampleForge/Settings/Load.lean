import SampleForge.Log.Event
import SampleForge.Settings.Decode
import SampleForge.Settings.Environment
import SampleForge.Settings.KeyExpression
import SampleForge.Settings.Source

/-!
# Loading settings

The settings of a run are merged from layers, each on top of the one before.

1. The defaults.
2. The file of the user, if there is one.
3. The file `config/config.toml` of the workspace, if there is one.
4. The file of the workspace for the stage of work that `SAMPLEGEN_ENV` names, `development` in its
   absence, if there is one.
5. The entries of the environment.

A single file may be named instead of the layers 2 to 5.
-/

namespace SampleForge

/-- What a program finds around it. -/
structure Surroundings where
  /-- The files. -/
  tree : FileTree
  /-- The variables. -/
  environment : Environment := {}
  /-- The moment. -/
  now : Timestamp := ⟨0, 0⟩

namespace Environment

/-- The path of the file of the user, if there is a place for it. -/
def userFile? (env : Environment) : Option String :=
  let base :=
    match env.get? "XDG_CONFIG_HOME" with
    | some dir => if dir = "" then none else some dir
    | none => none
  (base.or ((env.get? "HOME").map fun home => Path.join home ".config")).map fun base =>
    Path.join (Path.join base "samplegen") "config.toml"

/-- The stage of work. -/
def stage (env : Environment) : String := (env.get? "SAMPLEGEN_ENV").getD "development"

end Environment

namespace Settings

/-- The entries of the defaults. -/
def defaultEntries : Entry :=
  let text (s : String) : Entry := .leaf none (.text s)
  let generation : GenerationSettings := {}
  let logging : LoggingSettings := {}
  .group none
    [("generation", .group none
      [("artifacts", .list none (generation.artifacts.map text)),
        ("language", text generation.language),
        ("snippets", .list none (generation.snippets.map text))]),
      ("logging", .group none
        [("format", text logging.format), ("level", text logging.level),
          ("output", text logging.output)])]

/-- The settings of layers on top of the defaults, the lowest layer first. -/
def ofLayers (layers : List (List (String × Entry))) : Except SettingsFault Settings :=
  let merged := layers.foldl Entry.writeAll Entry.emptyGroup
  ofEntry (defaultEntries.writeAll merged.members)

/-- The paths of the files of a workspace, the lowest layer first. -/
def workspaceFiles (env : Environment) (workspace : String) : List String :=
  let folder := Path.join workspace "config"
  [Path.join folder "config.toml", Path.join folder (env.stage ++ ".toml")]

/-- The paths of the files that are looked for, the lowest layer first. -/
def layerFiles (env : Environment) (workspace : String) : List String :=
  env.userFile?.toList ++ workspaceFiles env workspace

/-- The layers on top of the defaults. -/
def layers (around : Surroundings) (workspace : String) :
    Except SettingsFault (List (List (String × Entry))) := do
  let files := (layerFiles around.environment workspace).filter around.tree.holds
  let layers ← files.mapM (SourceFile.readIfUsable around.tree)
  return layers ++ [around.environment.entries]

/-- The settings for a workspace. -/
def load (around : Surroundings) (workspace : String) : Except SettingsFault Settings := do
  ofLayers (← layers around workspace)

/-- The settings of a single file on top of the defaults. -/
def loadFile (around : Surroundings) (path : String) : Except SettingsFault Settings := do
  ofLayers [← SourceFile.read around.tree path]

/-! ## Journal -/

/-- The events of loading the settings for a workspace. -/
def loadEvents (around : Surroundings) (workspace : String) : List Event :=
  (match around.environment.userFile? with
    | some path =>
        if around.tree.holds path then []
        else
          [Event.of .debug "config::sources::global_file"
            "No global configuration file; using defaults" [("config_path", .text path)]]
    | none => []) ++
    [Event.of .debug "config::facade" "Loading configuration" [("workspace", .text workspace)]]

end Settings

end SampleForge
