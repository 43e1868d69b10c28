import SampleForge.Error
import SampleForge.NameSet
import SampleForge.Text.Case

/-!
# Artifact kinds and selections

Generated output falls into three *kinds*: the client surface, its tests, and code samples.  A
*selection* says which kinds to generate and in which order.  It may hold a list of allowed inputs,
and then a generator takes part only if it declares one of them (`admits`).
-/

namespace SampleForge

open Text (lowerAscii trim)

/-- A kind of generated output. -/
inductive ArtifactKind where
  | surface
  | test
  | samples
  deriving DecidableEq, Repr

namespace ArtifactKind

/-- All kinds in the order in which they are generated by default. -/
def all : List ArtifactKind := [surface, test, samples]

/-- The word for a kind. -/
def word : ArtifactKind → String
  | .surface => "surface"
  | .test => "test"
  | .samples => "samples"

/-- The name of a kind in the form of a constructor. -/
def title : ArtifactKind → String
  | .surface => "Surface"
  | .test => "Test"
  | .samples => "Samples"

/-- The kind with a name, whatever its case and the blanks around it. -/
def parse (name : String) : Except GenerationError ArtifactKind :=
  let name := lowerAscii (trim name)
  if name = "surface" then .ok .surface
  else if name = "test" then .ok .test
  else if name = "samples" then .ok .samples
  else .error (.unknownArtifact name)

end ArtifactKind

/-- The kinds to generate, and the inputs that are allowed if only some are. -/
structure Selection where
  /-- The kinds, each once. -/
  kinds : List ArtifactKind
  /-- The allowed inputs. -/
  inputs : Option NameSet := none
  deriving DecidableEq

namespace Selection

/-- The members of a list, each at its first place. -/
def firsts : List ArtifactKind → List ArtifactKind
  | [] => []
  | kind :: rest => kind :: (firsts rest).filter (· ≠ kind)

/-- The selection of kinds in the given order.  Repeats are dropped. -/
def ofKinds (kinds : List ArtifactKind) : Selection := { kinds := firsts kinds }

/-- The selection of all kinds. -/
def all : Selection := ofKinds ArtifactKind.all

/-- The selection of the kinds with the given names. -/
def parse (names : List String) : Except GenerationError Selection :=
  (names.mapM ArtifactKind.parse).map ofKinds

/-- The selection with a list of allowed inputs. -/
def withInputs (selection : Selection) (inputs : List String) : Selection :=
  { selection with inputs := some (NameSet.ofList inputs) }

/-- Whether a generator that declares the given inputs takes part. -/
def admits (selection : Selection) (declared : NameSet) : Bool :=
  match selection.inputs with
  | some allowed => allowed.meets declared
  | none => true

section Tests

example : (ofKinds [.samples, .test, .samples]).kinds = [.samples, .test] := by decide
example : (all.withInputs []).admits (NameSet.ofList ["a"]) = false := by decide

end Tests

end Selection

end SampleForge
