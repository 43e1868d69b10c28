import SampleForge.Sample.ImportSection

/-!
# The manifest of code samples

One document per product tells how its samples are run and where each of them lies.  It is the only
generated file that carries the timestamp of the product.
-/

namespace SampleForge

open Toml (Document Plain)

namespace Manifest

/-- The name of the generator. -/
def name : String := "sample_manifest"

/-- The version of the manifest's form. -/
def version : Nat := 3

/-- The path of the manifest. -/
def path (language : Language) : String :=
  "samples/" ++ language.environment ++ ".manifest.toml"

/-- A field that may be missing. -/
def optional (field : String) (value : Option String) : List (String × Plain) :=
  match value with
  | some s => [(field, .text s)]
  | none => []

/-- The entry of a sample. -/
def entry (language : Language) (sample : PlacedSample) : List (String × Plain) :=
  [("sample", .text sample.sample.id), ("path", .text (language.samplePath sample.sample.id)),
    ("interface", .text sample.interface), ("method", .text sample.method)] ++
    optional "region_tag" sample.sample.regionTag ++
    optional "calling_form" sample.sample.callingForm

/-- The manifest of a product. -/
def document (language : Language) (product : Product) : Document where
  fields := [("version", .number version), ("environment", .text language.environment),
    ("bin", .text language.runner), ("base_path", .text (product.basePath language)),
    ("invocation", .text language.invocation), ("generated_at", .text product.timestamp.text)]
  listName := "samples"
  tables := product.samples.map (entry language)

/-- The generator of the manifest of a product. -/
def generator (product : Product) : Generator where
  name
  inputs := ImportSection.inputs product
  generate product' :=
    .ok (KeyMap.empty.insert (path product.language)
      (.text (document product.language product').write))

end Manifest

end SampleForge
