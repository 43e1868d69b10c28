import SampleForge.Text.Pieces

/-!
# Paths as texts

A path is a text of segments between slashes.  An empty segment and the segment `.` stay where
they are, and `..` leads to the parent.  A path that starts with a slash is absolute.

The operations here work on the text alone.  What a path leads to is decided by a file tree.
-/

namespace SampleForge.Path

open Text (hasStart joinWith split)

/-- Whether a path starts at the root. -/
def isAbsolute (path : String) : Bool := hasStart "/" path

/-- Whether a segment stays where it is. -/
def isIdle (segment : String) : Bool := segment = "" || segment = "."

/-- The segments of a path that lead somewhere. -/
def segments (path : String) : List String := (split '/' path).filter fun s => !isIdle s

/-- Whether a path can only be that of a directory: its last segment stays where it is. -/
def wantsDirectory (path : String) : Bool :=
  path ≠ "" && isIdle ((split '/' path).getLast?.getD "")

/-- A path seen from another.  An absolute path is the same from everywhere. -/
def join (base path : String) : String :=
  if isAbsolute path then path
  else if base = "" then path
  else if (split '/' base).getLast? = some "" then base ++ path
  else base ++ "/" ++ path

/-- The segments of a path from its end, without the ones at the end that stay where they are.  A
`.` that starts the path is kept. -/
def trimIdle : List String → List String
  | [] => []
  | ["."] => ["."]
  | [s] => [s]
  | s :: rest => if isIdle s then trimIdle rest else s :: rest

/-- The path without its last segment, if it has one to lose. -/
def parent? (path : String) : Option String :=
  match trimIdle (split '/' path).reverse with
  | [] => none
  | [s] => if s = "" then none else some ""
  | _ :: rest =>
      match trimIdle rest with
      | [""] => some "/"
      | kept => some (joinWith "/" kept.reverse)

/-- The last segment of a path, unless that is `..` or missing. -/
def fileName? (path : String) : Option String :=
  match (segments path).getLast? with
  | some ".." => none
  | name => name

/-- A file name cut at its last point: the part before it and the part after it.  A point at the
start does not count. -/
def splitName (name : String) : String × Option String :=
  match Text.splitLast? '.' name with
  | some (stem, extension) => if stem = "" then (name, none) else (stem, some extension)
  | none => (name, none)

/-- What follows the last point of the file name. -/
def extension? (path : String) : Option String := (fileName? path).bind fun n => (splitName n).2

/-- The path with an extension added to its file name.  A path without one stays the same. -/
def addExtension (extension path : String) : String :=
  match fileName? path, parent? path with
  | some name, some base => join base (name ++ "." ++ extension)
  | _, _ => path

/-- The segments without those at the start that another list starts with too, and what is left of
that list. -/
def dropCommon : List String → List String → List String × List String
  | a :: as, b :: bs => if a = b then dropCommon as bs else (a :: as, b :: bs)
  | as, bs => (as, bs)

/-- An absolute path seen from a directory, given by its segments. -/
def relativeTo (directory : List String) (path : String) : String :=
  let (ahead, behind) := dropCommon (segments path) directory
  joinWith "/" (behind.map (fun _ => "..") ++ ahead)

section Tests

example : parent? "a/b/./c" = some "a/b" := by decide
example : parent? "./x" = some "." := by decide
example : parent? "x" = some "" := by decide
example : parent? "/x" = some "/" ∧ parent? "/" = none ∧ parent? "" = none := by decide
example : join "." "x" = "./x" ∧ join "a/" "x" = "a/x" ∧ join "a" "/x" = "/x" := by decide
example : extension? "a/b.c.toml" = some "toml" ∧ extension? "a/.toml" = none := by decide
example : addExtension "json" "a/b.c" = "a/b.c.json" := by decide
example : relativeTo ["r", "w"] "/r/x/./c" = "../x/c" := by decide

end Tests

end SampleForge.Path
