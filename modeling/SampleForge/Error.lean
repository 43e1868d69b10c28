import SampleForge.Diagnostics
import SampleForge.Files.Fault
import SampleForge.Settings.Fault
import SampleForge.ViewError

/-!
# Errors of a run

Every way in which generating artifacts can fail, with its wording.  An error of a generator wraps
the error that the generator met, so errors nest.  `causes` lists what lies inside an error, the
nearest first, and `mapped` is the text for a terminal.  It adds each cause that the text does not
show already.
-/

namespace SampleForge

open Text (occursIn)

/-- A reason why data cannot be read or written. -/
inductive SerializationFault where
  /-- A text that is no JSON. -/
  | malformed
  /-- JSON of the wrong form. -/
  | mismatch (fault : Json.Fault)
  /-- A reason told by someone else. -/
  | told (reason : String)

/-- The wording of a reason. -/
def SerializationFault.message : SerializationFault → String
  | .malformed => "the text is not well formed"
  | .mismatch fault => fault.message
  | .told reason => reason

/-- An error of a run. -/
inductive GenerationError where
  /-- The model has errors. -/
  | unresolvedDiagnostics (errorCount : Nat) (diagnostics : List Diagnostic)
  /-- Two parties claim one path. -/
  | fileConflict (path first second : String)
  /-- A generator failed. -/
  | generatorFailed (generator : String) (cause : GenerationError)
  /-- No artifact kind has this name. -/
  | unknownArtifact (name : String)
  /-- No target language has this name. -/
  | unsupportedLanguage (name : String)
  /-- An output view breaks its contract. -/
  | view (cause : ViewError)
  /-- Data cannot be read or written. -/
  | serialization (fault : SerializationFault)
  /-- The settings cannot be used. -/
  | settings (fault : SettingsFault)
  /-- A file cannot be read or written. -/
  | file (fault : FileFault)

namespace GenerationError

/-- The wording of an error. -/
def message : GenerationError → String
  | .unresolvedDiagnostics errorCount diagnostics =>
      "Model has " ++ Nat.repr errorCount ++ " unresolved error(s):\n" ++
        Diagnostic.render diagnostics
  | .fileConflict path first second =>
      "File conflict: '" ++ path ++ "' produced by both '" ++ first ++ "' and '" ++ second ++ "'"
  | .generatorFailed generator cause =>
      "Generator '" ++ generator ++ "' failed: " ++ cause.message
  | .unknownArtifact name => unknownArtifactMessage name
  | .unsupportedLanguage name => unsupportedLanguageMessage name
  | .view cause => "Output view error: " ++ cause.message
  | .serialization fault => "Serialization failed: " ++ fault.message
  | .settings fault => "Configuration error: " ++ fault.message
  | .file fault => "Output I/O error: " ++ fault.message

/-- The wordings of what lies inside an error, the nearest first. -/
def causes : GenerationError → List String
  | .generatorFailed _ cause => cause.message :: cause.causes
  | .view cause => [cause.message]
  | .file fault => [fault.message]
  | _ => []

/-- A text with a cause added, unless the text shows it already. -/
def addCause (text cause : String) : String :=
  if occursIn cause text then text else text ++ "\n  caused by: " ++ cause

/-- An error for a terminal, with its causes. -/
def mapped (e : GenerationError) : String := e.causes.foldl addCause e.message

section Tests

example : mapped (.generatorFailed "g" (.view .missingElement)) =
    "Generator 'g' failed: Output view error: " ++
      "Collection type reference requires an element type" := by
  decide +kernel

end Tests

end GenerationError

end SampleForge
