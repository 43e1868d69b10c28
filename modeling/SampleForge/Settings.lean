import SampleForge.Artifact.Selection
import SampleForge.Language
import SampleForge.Timestamp

/-!
# Settings

What a run can be told: which language and artifacts to generate, for which inputs, where to write
them, and how to log.  Every setting has a default.

`problems` lists what is wrong with settings, and `validated` refuses settings with a problem.
Settings without one have a language (`language`) and a selection of artifacts (`selection`).
-/

namespace SampleForge

open Text (joinWith)

/-- The settings of generation. -/
structure GenerationSettings where
  /-- The language of products that name none. -/
  language : String := "java"
  /-- The names of the artifact kinds, in order. -/
  artifacts : List String := ["surface", "test", "samples"]
  /-- The inputs that are allowed.  None means all. -/
  snippets : List String := []
  /-- Where files are written, if they are. -/
  outputDir : Option String := none
  /-- A timestamp in the place of that of the product. -/
  frozenTimestamp : Option Timestamp := none
  deriving DecidableEq

/-- The settings of logging. -/
structure LoggingSettings where
  /-- The level from which events are kept. -/
  level : String := "info"
  /-- The format of events. -/
  format : String := "text"
  /-- Where events go. -/
  output : String := "stderr"
  /-- The log file. -/
  file : String := ".samplegen/samplegen.log"
  /-- Whether events are coloured. -/
  color : Bool := true
  /-- Levels for parts of the program. -/
  modules : KeyMap String := .empty
  deriving DecidableEq

/-- The settings of a run. -/
structure Settings where
  /-- Those of generation. -/
  generation : GenerationSettings := {}
  /-- Those of logging. -/
  logging : LoggingSettings := {}
  deriving DecidableEq

namespace GenerationSettings

/-- The language of products that name none. -/
def targetLanguage (s : GenerationSettings) : Except GenerationError Language :=
  Language.parse s.language

/-- The selected artifacts, for the allowed inputs if there are any. -/
def selection (s : GenerationSettings) : Except GenerationError Selection :=
  (Selection.parse s.artifacts).map fun selection =>
    if s.snippets.isEmpty then selection else selection.withInputs s.snippets

/-- What is wrong with the language. -/
def languageProblems (s : GenerationSettings) : List Problem :=
  match s.targetLanguage with
  | .error (.unsupportedLanguage name) => [.unsupportedLanguage name]
  | _ => []

/-- What is wrong with the artifacts: that there is none, or the first unknown one. -/
def artifactProblems (s : GenerationSettings) : List Problem :=
  (if s.artifacts.isEmpty then [.noArtifact] else []) ++
    match Selection.parse s.artifacts with
    | .error (.unknownArtifact name) => [.unknownArtifact name]
    | _ => []

/-- What is wrong with the settings. -/
def problems (s : GenerationSettings) : List Problem :=
  s.languageProblems ++ s.artifactProblems ++
    if s.outputDir = some "" then [.emptyOutputDirectory] else []

end GenerationSettings

namespace LoggingSettings

/-- The names of the levels. -/
def levels : List String := ["trace", "debug", "info", "warn", "error", "off"]

/-- The names of the formats. -/
def formats : List String := ["json", "text"]

/-- The names of the outputs. -/
def outputs : List String := ["stdout", "stderr", "file"]

/-- The first thing that is wrong with the settings. -/
def problem? (s : LoggingSettings) : Option Problem :=
  if s.level ∉ levels then some (.badLogLevel s.level)
  else if s.format ∉ formats then some (.badLogFormat s.format)
  else if s.output ∉ outputs then some (.badLogOutput s.output)
  else none

end LoggingSettings

namespace Settings

/-- What is wrong with the settings. -/
def problems (s : Settings) : List Problem :=
  s.generation.problems ++ s.logging.problem?.toList

/-- The settings, unless something is wrong with them. -/
def validated (s : Settings) : Except GenerationError Settings :=
  if s.problems.isEmpty then .ok s else .error (.settings (.invalid s.problems))

/-- What validation has to say. -/
def validationText (s : Settings) : String :=
  if s.problems.isEmpty then
    "Configuration is valid\n  language: " ++ s.generation.language ++ "\n  artifacts: " ++
      joinWith ", " s.generation.artifacts ++ "\n  logging: " ++ s.logging.level ++ " (" ++
      s.logging.format ++ ", " ++ s.logging.output ++ ")"
  else Problem.summary s.problems

section Tests

example : (Settings.problems {}) = [] := by decide +kernel
example : ({ generation := { artifacts := ["docs", "x"] } } : Settings).problems =
    [.unknownArtifact "docs"] := by decide +kernel

end Tests

end Settings

end SampleForge
