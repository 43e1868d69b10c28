import SampleForge.Files.Fault
import SampleForge.Log.Fault
import SampleForge.Text.Pieces
import SampleForge.Timestamp

/-!
# What is wrong with settings

Two kinds of trouble.

* A `Problem` is a setting that was read and cannot be used.  Validation reports all problems at
  once.
* A `SettingsFault` stops the work: settings that cannot be read, settings with problems, or a
  logging choice that cannot be followed.
-/

namespace SampleForge

open Text (hasStart joinWith ticked)

/-! ## Problems -/

/-- The refusal of a language. -/
def unsupportedLanguageMessage (name : String) : String :=
  "Unsupported target language: " ++ name

/-- The refusal of an artifact kind. -/
def unknownArtifactMessage (name : String) : String :=
  "Unknown artifact kind: " ++ name ++ " (expected 'surface', 'test' or 'samples')"

/-- A setting that cannot be used. -/
inductive Problem where
  | unsupportedLanguage (name : String)
  | noArtifact
  | unknownArtifact (name : String)
  | emptyOutputDirectory
  | badLogLevel (level : String)
  | badLogFormat (format : String)
  | badLogOutput (output : String)
  deriving DecidableEq, Repr

/-- The section of the settings in which a problem lies. -/
def Problem.section : Problem → String
  | .unsupportedLanguage _ | .noArtifact | .unknownArtifact _ | .emptyOutputDirectory =>
      "Generation"
  | .badLogLevel _ | .badLogFormat _ | .badLogOutput _ => "Logging"

/-- The wording of a problem. -/
def Problem.reason : Problem → String
  | .unsupportedLanguage name => unsupportedLanguageMessage name
  | .noArtifact => "At least one artifact kind must be enabled"
  | .unknownArtifact name => unknownArtifactMessage name
  | .emptyOutputDirectory => "Output directory cannot be empty"
  | .badLogLevel level => "Invalid log level: " ++ level
  | .badLogFormat format => badFormatMessage format
  | .badLogOutput output => badOutputMessage output

/-- The wording of a problem with its section first. -/
def Problem.message (p : Problem) : String := p.section ++ ": " ++ p.reason

/-- All problems as one text, one to a line under a heading. -/
def Problem.summary (problems : List Problem) : String :=
  "Configuration has " ++ Nat.repr problems.length ++ " error(s):" ++
    String.join (problems.map fun p => "\n  - " ++ p.message)

/-! ## Faults -/

/-- A step from a group of settings to one of its members. -/
inductive KeyStep where
  | field (name : String)
  | index (n : Nat)
  deriving DecidableEq, Repr

/-- The path to a setting, as it is written: names with points between them, numbers in brackets. -/
def keyPath : List KeyStep → String
  | [] => ""
  | .index n :: rest => "[" ++ Nat.repr n ++ "]" ++ keyPath rest
  | .field name :: rest =>
      let after := keyPath rest
      name ++ (if after = "" || hasStart "[" after then "" else ".") ++ after

/-- A single setting of the wrong type. -/
structure Mismatch where
  /-- What was found. -/
  found : String
  /-- What was expected. -/
  expected : String
  /-- The path to the setting, if it is known. -/
  key : List KeyStep := []
  /-- The source of the setting, if it is known. -/
  origin : Option String := none
  deriving DecidableEq, Repr

/-- The wording of a mismatch. -/
def Mismatch.message (m : Mismatch) : String :=
  "invalid type: " ++ m.found ++ ", expected " ++ m.expected ++
    (if m.key.isEmpty then "" else " for key " ++ ticked (keyPath m.key)) ++
    (match m.origin with
      | some origin => " in " ++ origin
      | none => "")

/-- A mismatch met one step further out. -/
def Mismatch.within (step : KeyStep) (m : Mismatch) : Mismatch := { m with key := step :: m.key }

/-- A reason why settings cannot be read or used. -/
inductive SettingsFault where
  /-- A file that is not well formed. -/
  | malformed
  /-- A file that is not there. -/
  | noFile (path : String)
  /-- A file of no known format. -/
  | unknownFormat (path : String)
  /-- A file that cannot be read. -/
  | unreadable (fault : FileFault)
  /-- A single setting of the wrong type. -/
  | mismatch (m : Mismatch)
  /-- Something else in the place of a group or a list of settings. -/
  | wrongShape (found expected : String)
  /-- A file that holds something else than a group of settings. -/
  | notAGroup (found path : String)
  /-- A timestamp that is none. -/
  | badTimestamp (fault : TimestampFault)
  /-- An output format that is not known. -/
  | badOutputFormat (format : String)
  /-- Settings with problems. -/
  | invalid (problems : List Problem)
  /-- Settings with problems, as a report. -/
  | reported (problems : List Problem)
  /-- Logging that cannot start. -/
  | logging (fault : LogFault)
  /-- A reason told by someone else. -/
  | told (reason : String)
  deriving DecidableEq, Repr

/-- The wording of a reason. -/
def SettingsFault.message : SettingsFault → String
  | .malformed => "the file is not well formed"
  | .noFile path => "configuration file \"" ++ path ++ "\" not found"
  | .unknownFormat path =>
      "configuration file \"" ++ path ++ "\" is not of a registered file format"
  | .unreadable fault => fault.message
  | .mismatch m => m.message
  | .wrongShape found expected => "invalid type: " ++ found ++ ", expected " ++ expected
  | .notAGroup found path =>
      "invalid type: " ++ found ++ ", expected a map in " ++ path ++ " in " ++ path
  | .badTimestamp fault => fault.message
  | .badOutputFormat format =>
      "Invalid output format: " ++ format ++ " (must be 'text' or 'json')"
  | .invalid problems =>
      "Configuration validation failed:\n" ++ joinWith "\n" (problems.map Problem.message)
  | .reported problems => Problem.summary problems
  | .logging fault => fault.message
  | .told reason => reason

section Tests

example : keyPath [.field "generation", .field "artifacts", .index 0] =
    "generation.artifacts[0]" := by decide +kernel

end Tests

end SampleForge
