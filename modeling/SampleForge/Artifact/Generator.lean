import SampleForge.Artifact.Map
import SampleForge.Artifact.Selection
import SampleForge.Log.Event
import SampleForge.Product

/-!
# Artifact generators

A *generator* makes files for a product or fails.  It has a name, which reports and conflicts show,
and declares the inputs that it covers.

A generator is a function of the product.  What it notes in the journal while it works is another
function of the product, so that reasoning about files can leave the journal aside.
-/

namespace SampleForge

/-- A generator of files. -/
structure Generator where
  /-- The name. -/
  name : String
  /-- The inputs that the generator covers. -/
  inputs : NameSet
  /-- The files for a product. -/
  generate : Product → Except GenerationError ArtifactMap
  /-- What the generator notes while it works. -/
  journal : Product → List Event := fun _ => []

namespace Generator

/-- The generator of fixed files. -/
def fixed (name : String) (inputs : List String) (files : ArtifactMap) : Generator where
  name
  inputs := NameSet.ofList inputs
  generate _ := .ok files

/-- The generator of the packaging files of a product, if there are any. -/
def packaging? (product : Product) : Option Generator :=
  if product.packagingFiles.isEmpty then none
  else some (fixed "packaging" ["packaging"] (product.packagingFiles.mapValues .text))

end Generator

end SampleForge
