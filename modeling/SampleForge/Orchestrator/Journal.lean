import SampleForge.Orchestrator

/-!
# The journal of a run

What is noted while generators are registered and run.  The events of a run that fails end with
the event of the failure.
-/

namespace SampleForge.Orchestrator

/-- An event of the orchestrator. -/
def event (level : Level) (message : String) (fields : List (String × Json.Value)) : Event :=
  Event.of level "generation::orchestrator" message fields

/-- The events of setting up the generators that every product has. -/
def builtInEvents (product : Product) : List Event :=
  Event.of .debug "generation::factory" "Creating built-in generators"
    [("language", .text product.language.word)] ::
    (builtIn product).registrations.map fun r =>
      event .debug "Registered artifact generator"
        [("kind", .text r.kind.word), ("generator", .text r.generator.name)]

/-- The event of an error among the diagnostics. -/
def diagnosticEvent (d : Diagnostic) : Event :=
  event .error "Unresolved model diagnostic" [("diagnostic", .text d.line)]

/-- The event at the start of a run. -/
def startEvent (o : Orchestrator) (selection : Selection) : Event :=
  event .info "Starting artifact generation"
    [("package", .text o.product.packageName), ("language", .text o.product.language.word),
      ("artifacts",
        .text ("[" ++ Text.joinWith ", " (selection.kinds.map ArtifactKind.title) ++ "]"))]

/-- The event at the end of a run. -/
def endEvent (report : Report) : Event :=
  event .info "Artifact generation completed"
    [("files", .int report.artifacts.size), ("generators", .int report.contributions.length),
      ("skipped", .int report.skipped.length)]

/-- The events of an error that a generator causes. -/
def failureEvents (generator : String) : GenerationError → List Event
  | .generatorFailed _ cause =>
      [event .error "Generator failed"
        [("generator", .text generator), ("error", .text cause.message)]]
  | .fileConflict path first second =>
      [event .error "File conflict"
        [("path", .text path), ("first", .text first), ("second", .text second)]]
  | _ => []

/-- The events of the steps of a run. -/
def stepEvents (product : Product) (selection : Selection) (progress : Progress) :
    List Registration → List Event
  | [] => [endEvent progress.report]
  | r :: rest =>
      let name := r.generator.name
      if selection.admits r.generator.inputs then
        event .debug "Running generator"
          [("generator", .text name), ("kind", .text r.kind.word)] ::
          (r.generator.journal product ++
            match step product selection progress r with
            | .error e => failureEvents name e
            | .ok next =>
                event .debug "Generator finished"
                  [("generator", .text name),
                    ("files", .int (next.merged.size - progress.merged.size : Nat))] ::
                  stepEvents product selection next rest)
      else
        event .debug "Skipping generator with no selected inputs" [("generator", .text name)] ::
          stepEvents product selection
            { progress with skipped := progress.skipped ++ [name] } rest

/-- The events of a run. -/
def runEvents (o : Orchestrator) (selection : Selection) (diagnostics : List Diagnostic) :
    List Event :=
  if 0 < Diagnostic.errorCount diagnostics then diagnostics.map diagnosticEvent
  else
    startEvent o selection :: stepEvents o.product selection {} (o.selected selection)

end SampleForge.Orchestrator
