import SampleForge.Artifact.Map
import SampleForge.Artifact.OutputPath
import SampleForge.Files.Tree

/-!
# Writing generated files

`write` puts the files of an artifact map below a directory of a file tree.  Every path is brought
to its normal form and checked before the first file is written.  Two paths with one normal form
are a conflict, and so is a file that is a directory of another.

What follows is up to the file system.  `Written` says how far it went: the tree after the last
step, the files written, and the refusal that ended the work if there was one.
-/

namespace SampleForge.ArtifactMap

/-- A file to write: its normal path, the path it was given, and its content. -/
structure Target where
  /-- The path as it was given. -/
  given : String
  /-- The content. -/
  content : Content

/-- The files to write by their normal paths, those before them already settled. -/
def settleTargets (settled : KeyMap Target) :
    List (String × Content) → Except GenerationError (KeyMap Target)
  | [] => .ok settled
  | (path, content) :: rest => do
      let normal ← OutputPath.normalize path
      match settled.get? normal with
      | some first => .error (.fileConflict normal first.given path)
      | none => settleTargets (settled.insert normal ⟨path, content⟩) rest

/-- A path that lies below the given one, looked for in a list in ascending order.  Only the first
path that does not come before all of those is looked at. -/
def below? (path : String) (paths : List String) : Option String :=
  let start := path ++ "/"
  (paths.find? fun other => start ≤ other).filter (Text.hasStart start)

/-- Refuses a path that is a directory of another, the paths given in ascending order. -/
def checkNesting (paths : List String) : List String → Except GenerationError Unit
  | [] => .ok ()
  | path :: rest =>
      match below? path paths with
      | some nested => .error (.fileConflict path path nested)
      | none => checkNesting paths rest

/-- The files to write by their normal paths. -/
def targets (files : ArtifactMap) : Except GenerationError (KeyMap Target) := do
  let targets ← settleTargets .empty files.toList
  checkNesting targets.keys targets.keys
  return targets

/-- How far a writing went. -/
structure Written where
  /-- The tree after the last step. -/
  tree : FileTree
  /-- The paths of the files written, the first one first. -/
  paths : List String := []
  /-- The refusal that ended the work. -/
  refusal : Option SystemFault := none

/-- Writes one file and makes the directories above it. -/
def writeOne (tree : FileTree) (path : String) (bytes : List UInt8) :
    FileTree × Option SystemFault :=
  match tree.makeDirectories ((Path.parent? path).getD "") with
  | (tree, some fault) => (tree, some fault)
  | (tree, none) =>
      match tree.writeFile path bytes with
      | .ok tree => (tree, none)
      | .error fault => (tree, some fault)

/-- Writes one more file below a directory. -/
def Written.next (root : String) (done : Written) (file : String × Target) : Written :=
  match writeOne done.tree (Path.join root file.1) file.2.content.bytes with
  | (tree, some fault) => { done with tree := tree, refusal := some fault }
  | (tree, none) => { tree := tree, paths := done.paths ++ [Path.join root file.1] }

/-- Writes files below a directory until one is refused. -/
def writeTargets (root : String) (done : Written) : List (String × Target) → Written
  | [] => done
  | file :: rest =>
      let next := done.next root file
      if next.refusal = none then writeTargets root next rest else next

/-- Writes all files of a map below a directory, unless their paths are refused. -/
def write (files : ArtifactMap) (tree : FileTree) (root : String) :
    Except GenerationError Written := do
  let targets ← files.targets
  return writeTargets root { tree } targets.toList

/-- The number of files written, or the error of the writing. -/
def Written.result (done : Written) : Except GenerationError Nat :=
  match done.refusal with
  | some fault => .error (.file (.system fault))
  | none => .ok done.paths.length

/-- The tree after the files of a map have been written below a directory, and their number. -/
def writeTo (files : ArtifactMap) (tree : FileTree) (root : String) :
    FileTree × Except GenerationError Nat :=
  match files.write tree root with
  | .error e => (tree, .error e)
  | .ok done => (done.tree, done.result)

end SampleForge.ArtifactMap
