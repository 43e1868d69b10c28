import SampleForge.Files.Fault
import SampleForge.Files.Path
import SampleForge.Files.Place

/-!
# File trees

A *file tree* says what stands at each place: a directory, a file with its bytes, or nothing.  It
also has a working directory, from which relative paths are read.

The operations follow the rules of a file system without links.

* A path of more than `longestPath` bytes leads nowhere.
* Other paths are walked segment by segment, and every segment but the last must lead into a
  directory that exists (`walk`).
* `makeDirectory` makes one directory, `makeDirectories` those above it as well.
* `writeFile` and `appendFile` make the file if it is not there.  They need its directory.

An operation that is refused changes nothing, apart from `makeDirectories`, which may have made
some of the directories above.
-/

namespace SampleForge

/-- What stands at a place. -/
inductive Node where
  | directory
  | file (bytes : List UInt8)
  deriving DecidableEq

/-- A file tree with a working directory. -/
structure FileTree where
  /-- What stands where, each place once.  The root always is a directory and is left out. -/
  nodes : List (Place × Node) := []
  /-- The working directory. -/
  here : Place := .root

namespace FileTree

/-- What stands at a place. -/
def node? (tree : FileTree) (place : Place) : Option Node :=
  if place = .root then some .directory
  else (tree.nodes.find? fun entry => entry.1 = place).map (·.2)

/-- The tree with something put at a place. -/
def put (tree : FileTree) (place : Place) (node : Node) : FileTree :=
  { tree with nodes := (place, node) :: tree.nodes.filter fun entry => entry.1 ≠ place }

theorem node?_put_self (tree : FileTree) {place : Place} (node : Node) (h : place ≠ .root) :
    (tree.put place node).node? place = some node := by
  simp [node?, put, h]

theorem node?_put_of_ne (tree : FileTree) {place other : Place} (node : Node)
    (h : other ≠ place) : (tree.put place node).node? other = tree.node? other := by
  have hput : decide ((place, node).1 = other) = false := decide_eq_false fun heq => h heq.symm
  simp only [node?, put, List.find?_cons, hput, List.find?_filter]
  congr 3
  funext entry
  by_cases ho : entry.1 = other
  · simp [ho, h]
  · simp [ho]

/-! ## Finding -/

/-- The place that segments lead to from another.  All but the last must lead into directories. -/
def walk (tree : FileTree) (place : Place) : List String → Except SystemFault Place
  | [] => .ok place
  | segment :: rest =>
      match tree.node? place with
      | none => .error .notFound
      | some (.file _) => .error .notADirectory
      | some .directory =>
          if segment = ".." then walk tree place.parent rest
          else if 255 < segment.utf8ByteSize then .error .nameTooLong
          else walk tree (place.child segment) rest

/-- The places on the way along segments from another place, and the one at the end. -/
def route (place : Place) : List String → List Place
  | [] => [place]
  | segment :: rest =>
      place :: route (if segment = ".." then place.parent else place.child segment) rest

/-- The place where a path starts. -/
def start (tree : FileTree) (path : String) : Place :=
  if Path.isAbsolute path then .root else tree.here

/-- The number of bytes that a path may have. -/
def longestPath : Nat := 4095

/-- Refuses a path that leads nowhere whatever the tree. -/
def checkPath (path : String) : Except SystemFault Unit :=
  if path.toList.any (· == '\x00') then .error .zeroInName
  else if longestPath < path.utf8ByteSize then .error .nameTooLong
  else .ok ()

/-- The place that a path leads to. -/
def locate (tree : FileTree) (path : String) : Except SystemFault Place := do
  checkPath path
  if path = "" then .error .notFound else tree.walk (tree.start path) (Path.segments path)

/-- What stands at the place that a path leads to. -/
def find (tree : FileTree) (path : String) : Except SystemFault Node := do
  let place ← tree.locate path
  match tree.node? place with
  | none => .error .notFound
  | some .directory => return .directory
  | some (.file bytes) =>
      if Path.wantsDirectory path then .error .notADirectory else return .file bytes

/-- Whether anything stands at a path. -/
def holds (tree : FileTree) (path : String) : Bool := (tree.find path).isOk

/-- The bytes of a file. -/
def readFile (tree : FileTree) (path : String) : Except SystemFault (List UInt8) := do
  match ← tree.find path with
  | .directory => .error .isADirectory
  | .file bytes => return bytes

/-- The text of a file. -/
def readText (tree : FileTree) (path : String) : Except FileFault String := do
  match tree.readFile path with
  | .error fault => .error (.system fault)
  | .ok bytes =>
      match String.fromUTF8? ⟨bytes.toArray⟩ with
      | some s => return s
      | none => .error .notText

/-! ## Making directories -/

/-- The tree with a directory made at the end of segments from a place, and the place of it. -/
def makeDirectory (tree : FileTree) (place : Place) (segments : List String) :
    Except SystemFault (FileTree × Place) := do
  let target ← tree.walk place segments
  match tree.node? target with
  | some _ => .error .alreadyExists
  | none => return (tree.put target .directory, target)

/-- The place that segments from a place lead to if there is a directory, and else the refusal to
make one. -/
def directoryOr (tree : FileTree) (place : Place) (segments : List String) (fault : SystemFault) :
    Except SystemFault Place :=
  match tree.walk place segments with
  | .ok target => if tree.node? target == some .directory then .ok target else .error fault
  | .error _ => .error fault

/-- Makes the directories that segments lead through from a place, one below the other, where
there are none. -/
def makeEach (tree : FileTree) (place : Place) : List String → FileTree × Option SystemFault
  | [] => (tree, none)
  | segment :: rest =>
      match tree.makeDirectory place [segment] with
      | .ok (made, target) => made.makeEach target rest
      | .error fault =>
          match tree.directoryOr place [segment] fault with
          | .ok target => tree.makeEach target rest
          | .error fault => (tree, some fault)

/-- Makes the directory at a path and those above it.  Those above are looked at one by one only
if one of them is missing. -/
def makeDirectories (tree : FileTree) (path : String) : FileTree × Option SystemFault :=
  match checkPath path with
  | .error fault => (tree, some fault)
  | .ok _ =>
      match tree.makeDirectory (tree.start path) (Path.segments path) with
      | .ok (made, _) => (made, none)
      | .error .notFound => tree.makeEach (tree.start path) (Path.segments path)
      | .error fault =>
          match tree.directoryOr (tree.start path) (Path.segments path) fault with
          | .ok _ => (tree, none)
          | .error fault => (tree, some fault)

/-! ## Writing -/

/-- The tree after a file at a path has been opened for writing and given new bytes, which may
depend on the old ones. -/
def updateFile (tree : FileTree) (path : String) (change : List UInt8 → List UInt8) :
    Except SystemFault FileTree := do
  let place ← tree.locate path
  match tree.node? place with
  | some .directory => .error .isADirectory
  | some (.file bytes) =>
      if Path.wantsDirectory path then .error .notADirectory
      else return tree.put place (.file (change bytes))
  | none =>
      if Path.wantsDirectory path then .error .isADirectory
      else return tree.put place (.file (change []))

/-- The tree with a file written. -/
def writeFile (tree : FileTree) (path : String) (bytes : List UInt8) :
    Except SystemFault FileTree :=
  tree.updateFile path fun _ => bytes

/-- The tree with bytes added to a file. -/
def appendFile (tree : FileTree) (path : String) (bytes : List UInt8) :
    Except SystemFault FileTree :=
  tree.updateFile path (· ++ bytes)

/-! ## Comparing -/

/-- What stands in a tree and does not stand at the same place in another, a directory before what
is in it. -/
def changesFrom (tree before : FileTree) : List (Place × Node) :=
  tree.nodes.reverse.filter fun entry => before.node? entry.1 ≠ some entry.2

section Tests

/-- A tree with a file in a directory. -/
def sampleTree : FileTree :=
  { nodes := [(.ofNames ["d"], .directory), (.ofNames ["d", "f"], .file [1])] }

example : (sampleTree.readFile "/d/./f").toOption = some [1] := by decide
example : (sampleTree.makeDirectories "/d/f/x").2 = some .notADirectory := by decide
example : (sampleTree.makeDirectories "/d/f").2 = some .alreadyExists := by decide
example : ((sampleTree.makeDirectories "/a/b").1.node? (.ofNames ["a"])) = some .directory := by
  decide
example : (sampleTree.find "/d/f/").toOption = none := by decide
example : route (.ofNames ["d"]) ["..", "e"] = [.ofNames ["d"], .root, .ofNames ["e"]] := by decide
example : ((sampleTree.makeDirectories "/a/b").1.changesFrom sampleTree).map (·.1.names) =
    [["a"], ["a", "b"]] := by decide

end Tests

end FileTree

end SampleForge
