import SampleForge.Program
import Std.Time.DateTime.Timestamp

/-!
# The command

Runs the program on the computer at hand.  The run itself is `Program.run`, which knows a file tree
instead of the files.

1. What stands at the places that a run may read is put into a tree.
2. The program runs.  A run that finds nothing in its way goes as far as any, so what it changes
   covers the places that the next one changes.
3. What stands at these places is put into the tree as well, and the program runs again.
4. The changes of the second run are made, and its log and its output are written.
-/

namespace SampleForge.Main

/-! ## Surroundings -/

/-- The moment. -/
def now : IO Timestamp := do
  let moment ← Std.Time.Timestamp.now
  return ⟨moment.val.second.val, moment.val.nano.val.toNat⟩

/-- The pieces of a block of bytes, each of them closed by a zero. -/
def pieces (bytes : List UInt8) : List (List UInt8) :=
  bytes.foldr (fun b found =>
    match b, found with
    | 0, found => [] :: found
    | b, piece :: found => (b :: piece) :: found
    | b, [] => [[b]]) []

/-- The variables of this process that are texts. -/
def environment : IO Environment := do
  let block ← IO.FS.readBinFile "/proc/self/environ"
  return ⟨(pieces block.toList).filterMap fun piece =>
    (String.fromUTF8? ⟨piece.toArray⟩).bind Environment.ofText?⟩

/-- What stands at a place.  What cannot be read counts as nothing. -/
def look (place : Place) : IO (Option Node) := do
  try
    let path := (← IO.currentDir) / place.path
    if ← path.isDir then return some .directory
    else if ← path.pathExists then return some (.file (← IO.FS.readBinFile path).toList)
    else return none
  catch _ => return none

/-- A tree with what stands at some places that it knows nothing of. -/
def learn (tree : FileTree) (places : List Place) : IO FileTree :=
  places.foldlM (fun tree place => do
    if (tree.node? place).isSome then return tree
    else
      match ← look place with
      | some node => return tree.put place node
      | none => return tree) tree

/-- A tree with what the words of a command line may lead a run to read. -/
def surroundingTree (environment : Environment) (words : List String) : IO FileTree := do
  let tree : FileTree := { here := .ofNames (Path.segments (← IO.currentDir).toString) }
  let paths :=
    match CommandLine.parse words with
    | .ok args => Program.readPaths environment args
    | .error _ => []
  learn tree (FileTree.route .root tree.here.names ++ paths.flatMap fun path =>
    FileTree.route (tree.start path) (Path.segments path))

/-! ## Effects -/

/-- Makes a change to the files. -/
def change (place : Place) (node : Node) : IO Unit := do
  match node with
  | .directory => IO.FS.createDirAll place.path
  | .file bytes => IO.FS.writeBinFile place.path ⟨bytes.toArray⟩

/-- Writes the log of a run. -/
def writeLog (outcome : Outcome) : IO Unit := do
  match outcome.log with
  | none => return
  | some (plan, file) =>
      let moment ← now
      let lines := outcome.logged.map (Event.line plan.format moment)
      match plan.output with
      | .stdout => lines.forM fun line => IO.println line
      | .stderr => lines.forM fun line => IO.eprintln line
      | .file =>
          let handle ← IO.FS.Handle.mk file .append
          lines.forM fun line => handle.putStrLn line

/-- Writes what a run has to say. -/
def writeOutput (outcome : Outcome) : IO Unit := do
  match outcome.ending with
  | .usage .helpWanted => CommandLine.usage.forM fun line => IO.println line
  | .usage fault =>
      IO.eprintln ("error: " ++ fault.message)
      CommandLine.usage.forM fun line => IO.eprintln line
  | _ =>
      outcome.output.forM fun text => IO.println text
      outcome.failure.forM fun text => IO.eprintln text

end SampleForge.Main

open SampleForge SampleForge.Main in
/-- Runs the program with the words of the command line. -/
def main (words : List String) : IO UInt32 := do
  let environment ← environment
  let now ← now
  let tree ← surroundingTree environment words
  let probe := Program.run { tree, environment, now } words
  let tree ← learn tree (probe.tree.nodes.map (·.1))
  let outcome := Program.run { tree, environment, now } words
  outcome.complaints.forM fun line => IO.eprintln line
  (outcome.tree.changesFrom tree).forM fun (place, node) => change place node
  writeLog outcome
  writeOutput outcome
  return outcome.status
