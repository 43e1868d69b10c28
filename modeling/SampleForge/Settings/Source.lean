import SampleForge.Files.Tree
import SampleForge.Json.Reader
import SampleForge.Settings.Entry
import SampleForge.Settings.Fault
import SampleForge.Toml.Reader

/-!
# Files of settings

A file of settings is in one of the known formats, which its extension tells.  A path that leads to
no file is tried again with the extension of each format added to it.

The known formats are JSON and TOML.  YAML, INI, RON and JSON5, in which an explicitly named file
of settings could also be written, are left out: here such a file is in no known format, and their
extensions are not tried.
-/

namespace SampleForge

open Text (quoted ticked)

/-- A format of files of settings, of those that are read here. -/
inductive SourceFormat where
  | toml
  | json
  deriving DecidableEq

/-- A file of settings. -/
structure SourceFile where
  /-- Its absolute path. -/
  path : String
  /-- Its format. -/
  format : SourceFormat

namespace SourceFile

/-- The formats by their extensions.  YAML, INI, RON and JSON5 are left out. -/
def formats : List (String × SourceFormat) := [("json", .json), ("toml", .toml)]

/-- Whether a path leads to a file. -/
def isFile (tree : FileTree) (path : String) : Bool :=
  match tree.find path with
  | .ok (.file _) => true
  | _ => false

/-- An absolute path for a path seen from the working directory. -/
def absolute (tree : FileTree) (path : String) : String :=
  Path.join tree.here.path path

/-- The file that a path means. -/
def find (tree : FileTree) (path : String) : Except SettingsFault SourceFile :=
  let full := absolute tree path
  if isFile tree full then
    match (Path.extension? full).bind fun e => findPair? e formats with
    | some format => .ok ⟨full, format⟩
    | none => .error (.unknownFormat full)
  else
    match formats.find? fun f => isFile tree (Path.addExtension f.1 full) with
    | some (extension, format) => .ok ⟨Path.addExtension extension full, format⟩
    | none => .error (.noFile path)

/-- What messages call the file. -/
def origin (file : SourceFile) (tree : FileTree) : String := Path.relativeTo tree.here.names file.path

/-- An entry in the words of a message. -/
def describeRoot : Entry → String
  | .leaf _ .nothing => "unit value"
  | .leaf _ (.bool b) => "boolean " ++ ticked (if b then "true" else "false")
  | .leaf _ (.int n) => "64-bit integer " ++ ticked (Int.repr n)
  | .leaf _ (.real x) => "floating point " ++ ticked x.positional
  | .leaf _ (.text s) => "string " ++ quoted s
  | .list _ _ => "sequence"
  | .group _ _ => "map"

/-- The entries in the text of a file. -/
def parse (format : SourceFormat) (origin text : String) :
    Except SettingsFault (List (String × Entry)) :=
  let root :=
    match format with
    | .toml => (Toml.read? text).map (Entry.ofToml origin)
    | .json => (Json.read? text).map (Entry.ofJson origin)
  match root with
  | some (.group _ members) => .ok members
  | some entry => .error (.notAGroup (describeRoot entry) origin)
  | none => .error .malformed

/-- The file that a path means, with its text. -/
def contents (tree : FileTree) (path : String) : Except SettingsFault (SourceFile × String) := do
  let file ← find tree path
  match tree.readText file.path with
  | .ok text => return (file, text)
  | .error fault => .error (.unreadable fault)

/-- The entries of the file at a path. -/
def read (tree : FileTree) (path : String) : Except SettingsFault (List (String × Entry)) := do
  let (file, text) ← contents tree path
  parse file.format (file.origin tree) text

/-- The entries of the file at a path.  If it cannot be found or read, there are none. -/
def readIfUsable (tree : FileTree) (path : String) :
    Except SettingsFault (List (String × Entry)) :=
  match contents tree path with
  | .ok (file, text) => parse file.format (file.origin tree) text
  | .error _ => .ok []

end SourceFile

end SampleForge
