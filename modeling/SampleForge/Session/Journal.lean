import SampleForge.Orchestrator.Journal
import SampleForge.Session

/-!
# The journal of a session

What is noted while a command is carried out, up to the point where it fails if it does.
-/

namespace SampleForge.Session

open CommandLine (Command GenerateOptions)

/-- An event of a session. -/
def event (level : Level) (message : String) (fields : List (String × Json.Value)) : Event :=
  Event.of level "cli::route" message fields

/-- The event of a product with diagnostics. -/
def diagnosticEvents (product : Product) : List Event :=
  if product.diagnostics.isEmpty then []
  else
    [event .debug "Product carries model diagnostics"
      [("count", .int product.diagnostics.length)]]

/-- The events of writing files. -/
def writeEvents (p : Plan) (tree : FileTree) : List Event :=
  match p.directory with
  | none => []
  | some directory =>
      match p.report.artifacts.write tree directory with
      | .error _ => []
      | .ok done =>
          done.paths.map (fun path =>
            Event.of .debug "generation::artifact" "Wrote generated file"
              [("path", .text path)]) ++
            match done.result with
            | .ok count =>
                [event .info "Wrote generated files"
                  [("dir", .text directory), ("written", .int count)]]
            | .error _ => []

/-- The events of running the generators of a product and of writing their files. -/
def runEvents (s : Session) (around : Surroundings) (settings : GenerationSettings)
    (product : Product) (selection : Selection) : List Event :=
  let o := Orchestrator.builtIn product
  Orchestrator.builtInEvents product ++ o.runEvents selection product.diagnostics ++
    match o.run selection product.diagnostics with
    | .error _ => []
    | .ok report =>
        { event .info "Generation finished" [("files", .int report.artifacts.size)] with
            measured := ["duration_ms"] } ::
          writeEvents ⟨report, settings.outputDir.map s.resolve⟩ around.tree

/-- The events of `generate`. -/
def generateEvents (s : Session) (around : Surroundings) (o : GenerateOptions) : List Event :=
  match (do checkFormat o.format; (s.settingsFor o).validated) with
  | .error _ => []
  | .ok settings =>
      event .debug "Loading product" [("product", .text (s.resolve o.product))] ::
        match s.readProduct around settings.generation o.product, settings.generation.selection with
        | .ok product, .ok selection =>
            diagnosticEvents product ++
              s.runEvents around settings.generation product selection
        | _, _ => []

/-- The events of a command. -/
def events (s : Session) (around : Surroundings) : Command → List Event
  | .generate o => s.generateEvents around o
  | .validateSettings => []

end SampleForge.Session
