import SampleForge.Product.Json
import SampleForge.Settings

/-!
# Settings in JSON

Settings as a record of records.  A field that is missing has its default.
-/

namespace SampleForge

open Json (Fault Shape Value)

namespace GenerationSettings

/-- The settings as JSON. -/
def toJson (s : GenerationSettings) : Value :=
  .object [("artifacts", Value.texts s.artifacts),
    ("frozen_timestamp", Value.textOrNull (s.frozenTimestamp.map Timestamp.shortText)),
    ("language", .text s.language), ("output_dir", Value.textOrNull s.outputDir),
    ("snippets", Value.texts s.snippets)]

/-- The settings as a record. -/
def shape : Shape :=
  ⟨"struct GenerationSettings",
    ["language", "artifacts", "snippets", "output_dir", "frozen_timestamp"]⟩

/-- Takes in a field. -/
def set (s : GenerationSettings) (field : String) (v : Value) :
    Except Fault GenerationSettings :=
  if field = "language" then do return { s with language := ← Json.readText v }
  else if field = "artifacts" then do
    return { s with artifacts := ← Json.readList Json.readText v }
  else if field = "snippets" then do
    return { s with snippets := ← Json.readList Json.readText v }
  else if field = "output_dir" then do
    return { s with outputDir := ← Json.readOptional Json.readPath v }
  else if field = "frozen_timestamp" then do
    return { s with frozenTimestamp := ← Json.readOptional Timestamp.read v }
  else return s

/-- Reads the settings. -/
def read (v : Value) : Except Fault GenerationSettings :=
  shape.read .direct {} set (fun _ s => return s) v

end GenerationSettings

namespace LoggingSettings

/-- The settings as JSON. -/
def toJson (s : LoggingSettings) : Value :=
  .object [("color", .bool s.color), ("file", .text s.file), ("format", .text s.format),
    ("level", .text s.level), ("modules", .object (s.modules.mapValues Value.text).toList),
    ("output", .text s.output)]

/-- The settings as a record. -/
def shape : Shape :=
  ⟨"struct LoggingConfig", ["level", "format", "output", "file", "color", "modules"]⟩

/-- Takes in a field. -/
def set (s : LoggingSettings) (field : String) (v : Value) : Except Fault LoggingSettings :=
  if field = "level" then do return { s with level := ← Json.readText v }
  else if field = "format" then do return { s with format := ← Json.readText v }
  else if field = "output" then do return { s with output := ← Json.readText v }
  else if field = "file" then do return { s with file := ← Json.readPath v }
  else if field = "color" then do return { s with color := ← Json.readBool v }
  else if field = "modules" then do return { s with modules := ← Json.readTextMap v }
  else return s

/-- Reads the settings. -/
def read (v : Value) : Except Fault LoggingSettings :=
  shape.read .direct {} set (fun _ s => return s) v

end LoggingSettings

namespace Settings

/-- The settings as JSON. -/
def toJson (s : Settings) : Value :=
  .object [("generation", s.generation.toJson), ("logging", s.logging.toJson)]

/-- The settings as a record. -/
def shape : Shape := ⟨"struct SamplegenConfig", ["generation", "logging"]⟩

/-- Takes in a field. -/
def set (s : Settings) (field : String) (v : Value) : Except Fault Settings :=
  if field = "generation" then do return { s with generation := ← GenerationSettings.read v }
  else if field = "logging" then do return { s with logging := ← LoggingSettings.read v }
  else return s

/-- Reads the settings. -/
def read (v : Value) : Except Fault Settings :=
  shape.read .direct {} set (fun _ s => return s) v

end Settings

end SampleForge
