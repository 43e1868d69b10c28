import SampleForge.Error
import SampleForge.Files.Path

/-!
# Output paths

A generated file is named by a path below the output directory.  `normalize` brings the path to
its one normal form, its real segments joined by slashes, and refuses a path that starts at the
root, leads upwards anywhere, or has no real segment.
-/

namespace SampleForge.OutputPath

open Text (joinWith split)

/-- Whether a path might lead out of the output directory. -/
def escapes (path : String) : Bool := Path.isAbsolute path || (split '/' path).contains ".."

/-- The normal form of an output path. -/
def normalize (path : String) : Except GenerationError String :=
  if escapes path then .error (.file (.escapes path))
  else if Path.segments path = [] then .error (.file (.namesNothing path))
  else .ok (joinWith "/" (Path.segments path))

section Tests

example : (normalize "./a//b/.").toOption = some "a/b" := by decide
example : (normalize "a/../b").toOption = none := by decide
example : (normalize ".").toOption = none := by decide

end Tests

end SampleForge.OutputPath
