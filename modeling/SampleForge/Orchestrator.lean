import SampleForge.Artifact.Generator
import SampleForge.Artifact.OutputPath
import SampleForge.Sample.Manifest

/-!
# Running generators

An *orchestrator* holds a product and the generators registered for each kind of output.  `run`
asks the generators of the selected kinds, kind by kind and in the order of registration, and
merges their files into one map.

* Errors among the diagnostics stop the run before any generator is asked.
* A generator that declares no selected input is skipped.
* Every path is brought to its normal form.  Two files with one normal path are a conflict, no
  matter which generators they come from.
* The first error ends the run, and nothing of it is kept.
-/

namespace SampleForge

/-- The files that one generator contributed. -/
structure Contribution where
  /-- The name of the generator. -/
  generator : String
  /-- The kind that it was registered for. -/
  kind : ArtifactKind
  /-- The normal paths of its files. -/
  paths : List String
  deriving DecidableEq

/-- The outcome of a run. -/
structure Report where
  /-- The merged files. -/
  artifacts : ArtifactMap := .empty
  /-- Who contributed what, in the order of the run. -/
  contributions : List Contribution := []
  /-- The generators that were skipped, in the order of the run. -/
  skipped : List String := []
  deriving DecidableEq

/-- A generator registered for a kind. -/
structure Registration where
  /-- The kind. -/
  kind : ArtifactKind
  /-- The generator. -/
  generator : Generator

/-- A product and its registered generators. -/
structure Orchestrator where
  /-- The product. -/
  product : Product
  /-- The generators in the order of registration. -/
  registrations : List Registration := []

namespace Orchestrator

/-- The orchestrator with one more generator. -/
def register (o : Orchestrator) (kind : ArtifactKind) (generator : Generator) : Orchestrator :=
  { o with registrations := o.registrations ++ [⟨kind, generator⟩] }

/-- The names of the generators of a kind, in the order of registration. -/
def names (o : Orchestrator) (kind : ArtifactKind) : List String :=
  (o.registrations.filter (·.kind = kind)).map (·.generator.name)

/-- The orchestrator of a product with the generators that every product has: packaging files with
the surface, import sections and the manifest with the samples. -/
def builtIn (product : Product) : Orchestrator where
  product
  registrations :=
    (Generator.packaging? product).toList.map (⟨.surface, ·⟩) ++
      [⟨.samples, ImportSection.generator product⟩, ⟨.samples, Manifest.generator product⟩]

/-- The registrations of the selected kinds, in the order of the run. -/
def selected (o : Orchestrator) (selection : Selection) : List Registration :=
  selection.kinds.flatMap fun kind => o.registrations.filter (·.kind = kind)

/-! ## Merging -/

/-- The merged files with the name of the generator that each comes from. -/
abbrev Merged := KeyMap (String × Content)

/-- Merges files of a generator.  `paths` are the normal paths of those already merged. -/
def mergeFiles (generator : String) (merged : Merged) (paths : List String) :
    List (String × Content) → Except GenerationError (Merged × List String)
  | [] => .ok (merged, paths)
  | (given, content) :: rest => do
      let path ← OutputPath.normalize given
      match merged.get? path with
      | some (first, _) => .error (.fileConflict path first generator)
      | none =>
          mergeFiles generator (merged.insert path (generator, content)) (paths ++ [path]) rest

/-- How far a run has come. -/
structure Progress where
  /-- The merged files. -/
  merged : Merged := .empty
  /-- Who contributed what. -/
  contributions : List Contribution := []
  /-- The generators that were skipped. -/
  skipped : List String := []

/-- The files of a generator, its failure under its name. -/
def ask (product : Product) (generator : Generator) : Except GenerationError ArtifactMap :=
  match generator.generate product with
  | .ok files => .ok files
  | .error e => .error (.generatorFailed generator.name e)

/-- One step of a run. -/
def step (product : Product) (selection : Selection) (progress : Progress) (r : Registration) :
    Except GenerationError Progress :=
  if selection.admits r.generator.inputs then do
    let files ← ask product r.generator
    let (merged, paths) ← mergeFiles r.generator.name progress.merged [] files.toList
    return { progress with
      merged := merged
      contributions := progress.contributions ++ [⟨r.generator.name, r.kind, paths⟩] }
  else .ok { progress with skipped := progress.skipped ++ [r.generator.name] }

/-- The report of a run that is complete. -/
def Progress.report (progress : Progress) : Report where
  artifacts := progress.merged.mapValues (·.2)
  contributions := progress.contributions
  skipped := progress.skipped

/-- Runs the selected generators. -/
def run (o : Orchestrator) (selection : Selection) (diagnostics : List Diagnostic) :
    Except GenerationError Report :=
  if 0 < Diagnostic.errorCount diagnostics then
    .error (.unresolvedDiagnostics (Diagnostic.errorCount diagnostics) diagnostics)
  else
    ((o.selected selection).foldlM (step o.product selection) {}).map Progress.report

/-- Runs the selected generators for their files alone. -/
def runArtifacts (o : Orchestrator) (selection : Selection) (diagnostics : List Diagnostic) :
    Except GenerationError ArtifactMap :=
  (o.run selection diagnostics).map (·.artifacts)

end Orchestrator

end SampleForge
