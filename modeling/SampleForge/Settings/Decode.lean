import SampleForge.Settings
import SampleForge.Settings.Entry

/-!
# Settings from entries

Reads settings from the merged entries of all sources.

* A text may also be given as a truth value or a number, and a truth value as a number or as one of
  a few words.
* A group of settings may also be given as a list of its settings in their declared order.
* Settings without an entry have their defaults, and entries that are no settings are ignored.

A leaf of the wrong type is told with the path to it and its source.
-/

namespace SampleForge

open Text (quoted ticked)

namespace Entry

/-! ## Words for messages -/

/-- A truth value in words. -/
def boolText (b : Bool) : String := if b then "true" else "false"

/-- A floating number in a message, with a fraction if it is finite. -/
def realText (x : Binary64) : String :=
  x.positional ++ if x.isFinite && !(x.positional.toList.contains '.') then ".0" else ""

/-- A leaf in the words of a message. -/
def describeLeaf : Leaf → String
  | .nothing => "unit value"
  | .bool b => "boolean " ++ ticked (boolText b)
  | .int n => "integer " ++ ticked (Int.repr n)
  | .real x => "floating point " ++ ticked (realText x)
  | .text s => "string " ++ quoted s

/-- An entry in the words of a message. -/
def describe : Entry → String
  | .leaf _ value => describeLeaf value
  | .list _ _ => "sequence"
  | .group _ _ => "map"

/-- The source of an entry. -/
def origin : Entry → Option String
  | .leaf origin _ | .list origin _ | .group origin _ => origin

/-! ## Single settings -/

/-- The refusal of an entry. -/
def mismatch (entry : Entry) (found expected : String) : SettingsFault :=
  .mismatch { found, expected, origin := entry.origin }

/-- A text. -/
def readText (entry : Entry) : Except SettingsFault String :=
  match entry with
  | .leaf _ (.text s) => .ok s
  | .leaf _ (.bool b) => .ok (boolText b)
  | .leaf _ (.int n) => .ok (Int.repr n)
  | .leaf _ (.real x) => .ok x.positional
  | entry => .error (entry.mismatch entry.describe "a string")

/-- The words for the truth values. -/
def boolWords : List (String × Bool) :=
  [("1", true), ("true", true), ("on", true), ("yes", true), ("0", false), ("false", false),
    ("off", false), ("no", false)]

/-- A truth value. -/
def readBool (entry : Entry) : Except SettingsFault Bool :=
  match entry with
  | .leaf _ (.bool b) => .ok b
  | .leaf _ (.int n) => .ok (n ≠ 0)
  | .leaf _ (.real x) => .ok !x.isZero
  | .leaf _ (.text s) =>
      match findPair? (Text.lower s) boolWords with
      | some b => .ok b
      | none => .error (entry.mismatch ("string " ++ quoted (Text.lower s)) "a boolean")
  | entry => .error (entry.mismatch entry.describe "a boolean")

/-- A moment. -/
def readTimestamp (entry : Entry) : Except SettingsFault Timestamp := do
  match Timestamp.parse (← entry.readText) with
  | .ok t => return t
  | .error fault => .error (.badTimestamp fault)

/-- A setting that may be absent. -/
def readOptional {α : Type} (read : Entry → Except SettingsFault α) :
    Entry → Except SettingsFault (Option α)
  | .leaf _ .nothing => .ok none
  | entry => (read entry).map some

/-! ## Groups and lists -/

/-- A result from one step further in. -/
def within {α : Type} (step : KeyStep) : Except SettingsFault α → Except SettingsFault α
  | .error (.mismatch m) => .error (.mismatch (m.within step))
  | result => result

/-- Texts, the first of them with the given number. -/
def readTextsFrom (n : Nat) : List Entry → Except SettingsFault (List String)
  | [] => .ok []
  | entry :: rest => do
      let s ← within (.index n) entry.readText
      return s :: (← readTextsFrom (n + 1) rest)

/-- A list of texts. -/
def readTexts : Entry → Except SettingsFault (List String)
  | .list _ items => readTextsFrom 0 items
  | entry => .error (.wrongShape entry.describe "a sequence")

/-- A map from names to texts. -/
def readTextMap : Entry → Except SettingsFault (KeyMap String)
  | .group _ members => do
      let pairs ← members.mapM fun (name, entry) => do
        return (name, ← within (.field name) entry.readText)
      return KeyMap.ofList pairs
  | entry => .error (.wrongShape entry.describe "a map")

/-- How one setting of a group is taken in.  Names that are no settings change nothing. -/
abbrev Setter (α : Type) := α → String → Entry → Except SettingsFault α

/-- Takes in the named settings of a group. -/
def setMembers {α : Type} (set : Setter α) : α → List (String × Entry) → Except SettingsFault α
  | settings, [] => .ok settings
  | settings, (name, entry) :: rest => do
      setMembers set (← within (.field name) (set settings name entry)) rest

/-- Takes in the settings of a list, in their declared order. -/
def setItems {α : Type} (set : Setter α) (n : Nat) :
    α → List String → List Entry → Except SettingsFault α
  | settings, name :: names, entry :: rest => do
      setItems set (n + 1) (← within (.index n) (set settings name entry)) names rest
  | settings, _, _ => .ok settings

/-- Reads a group of settings, starting from the defaults. -/
def readGroup {α : Type} (title : String) (names : List String) (set : Setter α) (defaults : α) :
    Entry → Except SettingsFault α
  | .group _ members => setMembers set defaults members
  | .list _ items => setItems set 0 defaults names items
  | entry => .error (.wrongShape entry.describe title)

end Entry

/-! ## The settings -/

namespace GenerationSettings

/-- Takes in a setting. -/
def setEntry : Entry.Setter GenerationSettings := fun s name entry =>
  if name = "language" then do return { s with language := ← entry.readText }
  else if name = "artifacts" then do return { s with artifacts := ← entry.readTexts }
  else if name = "snippets" then do return { s with snippets := ← entry.readTexts }
  else if name = "output_dir" then do
    return { s with outputDir := ← entry.readOptional Entry.readText }
  else if name = "frozen_timestamp" then do
    return { s with frozenTimestamp := ← entry.readOptional Entry.readTimestamp }
  else return s

/-- Reads the settings. -/
def ofEntry : Entry → Except SettingsFault GenerationSettings :=
  Entry.readGroup "struct GenerationSettings"
    ["language", "artifacts", "snippets", "output_dir", "frozen_timestamp"] setEntry {}

end GenerationSettings

namespace LoggingSettings

/-- Takes in a setting. -/
def setEntry : Entry.Setter LoggingSettings := fun s name entry =>
  if name = "level" then do return { s with level := ← entry.readText }
  else if name = "format" then do return { s with format := ← entry.readText }
  else if name = "output" then do return { s with output := ← entry.readText }
  else if name = "file" then do return { s with file := ← entry.readText }
  else if name = "color" then do return { s with color := ← entry.readBool }
  else if name = "modules" then do return { s with modules := ← entry.readTextMap }
  else return s

/-- Reads the settings. -/
def ofEntry : Entry → Except SettingsFault LoggingSettings :=
  Entry.readGroup "struct LoggingConfig" ["level", "format", "output", "file", "color", "modules"]
    setEntry {}

end LoggingSettings

namespace Settings

/-- Takes in a group of settings. -/
def setEntry : Entry.Setter Settings := fun s name entry =>
  if name = "generation" then do return { s with generation := ← GenerationSettings.ofEntry entry }
  else if name = "logging" then do return { s with logging := ← LoggingSettings.ofEntry entry }
  else return s

/-- Reads the settings. -/
def ofEntry : Entry → Except SettingsFault Settings :=
  Entry.readGroup "struct SamplegenConfig" ["generation", "logging"] setEntry {}

end Settings

section Tests

example : Entry.realText ⟨0x3FF0000000000000⟩ = "1.0" := by decide +kernel
example : (Entry.leaf (some "f") (.text "Off")).readBool.toOption = some false := by decide +kernel

end Tests

end SampleForge
