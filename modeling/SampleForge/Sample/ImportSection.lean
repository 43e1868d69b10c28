import SampleForge.Artifact.Generator
import SampleForge.Sample.Locator
import SampleForge.SymbolTable.Journal
import SampleForge.Toml.Printer

/-!
# Import sections of code samples

For every code sample a small document lists the imports and nicknames that its output handling
needs.  Each sample gets a symbol table of its own, so no sample sees the types of another.

Two samples whose documents would have the same path are a conflict.
-/

namespace SampleForge

open Toml (Document Plain)

namespace ImportSection

/-- The name of the generator. -/
def name : String := "sample_imports"

/-- The inputs that the generators of samples cover: every sample, and samples as such. -/
def inputs (product : Product) : NameSet :=
  (NameSet.ofList product.sampleIds).insert "samples"

/-- The symbol table of a sample. -/
def table (policy : ImportPolicy) (sample : Sample) : Except GenerationError SymbolTable :=
  match (SymbolTable.empty policy).collect policy sample.outputs with
  | .ok table => .ok table
  | .error e => .error (.view e)

/-- The document of a sample. -/
def document (sample : PlacedSample) (table : SymbolTable) : Document where
  fields := [("sample", .text sample.sample.id), ("interface", .text sample.interface),
    ("method", .text sample.method), ("imports", .texts table.imports.toList)]
  listName := "nicknames"
  tables := table.entries.map fun entry =>
    [("type", .text entry.1.identity), ("nickname", .text entry.2)]

/-- The path of the document of a sample. -/
def path (product : Product) (id : String) : String :=
  product.sampleFile product.language id ++ ".imports.toml"

/-- The documents made so far, each with the sample it is for. -/
abbrev Sections := KeyMap (String × Document)

/-- The documents of samples, after those made so far. -/
def sectionsFrom (product : Product) (policy : ImportPolicy) (sections : Sections) :
    List PlacedSample → Except GenerationError Sections
  | [] => .ok sections
  | sample :: rest => do
      let table ← table policy sample.sample
      let path := path product sample.sample.id
      match sections.get? path with
      | some (previous, _) =>
          .error (.fileConflict path (name ++ ":" ++ previous) (name ++ ":" ++ sample.sample.id))
      | none =>
          let sections := sections.insert path (sample.sample.id, document sample table)
          sectionsFrom product policy sections rest

/-- The documents of all samples of a product. -/
def generate (policy : ImportPolicy) (product : Product) : Except GenerationError ArtifactMap :=
  (sectionsFrom product policy .empty product.samples).map fun sections =>
    sections.mapValues fun entry => .text entry.2.write

/-- The events of making the documents of samples, after those made so far. -/
def eventsFrom (product : Product) (policy : ImportPolicy) (sections : Sections) :
    List PlacedSample → List Event
  | [] => []
  | sample :: rest =>
      SymbolTable.collectEvents policy (.empty policy) sample.sample.outputs ++
        match sectionsFrom product policy sections [sample], table policy sample.sample with
        | .ok sections, .ok table =>
            Event.of .debug "generation::samples" "Resolved sample imports"
              [("sample", .text sample.sample.id), ("imports", .int table.imports.size)] ::
              eventsFrom product policy sections rest
        | _, _ => []

/-- The generator of the import sections of a product. -/
def generator (product : Product) : Generator where
  name
  inputs := inputs product
  generate := generate product.importPolicy
  journal product' := eventsFrom product' product.importPolicy .empty product'.samples

end ImportSection

end SampleForge
