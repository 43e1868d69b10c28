import SampleForge.Log.Line
import SampleForge.Session.Journal

/-!
# The program

One run of the program, from its arguments and what it finds around it to what it leaves behind.

1. The arguments are read.
2. The settings are loaded for the sake of logging.  If they cannot be loaded, the defaults are
   taken.  Options in front of the command come first.  Then logging starts.
3. The settings are loaded again, and the command is carried out.

Only step 3 is journaled.
-/

namespace SampleForge

open CommandLine (Arguments UsageFault)

/-- How a run ends. -/
inductive Ending where
  /-- The arguments are refused. -/
  | usage (fault : UsageFault)
  /-- Logging cannot start. -/
  | noLogging (fault : LogFault)
  /-- The command was carried out or failed. -/
  | command (result : Except GenerationError String)

/-- What a run leaves behind. -/
structure Outcome where
  /-- How it ended. -/
  ending : Ending
  /-- The files. -/
  tree : FileTree
  /-- How events are logged, and to which file if they go to one. -/
  log : Option (LogPlan × String) := none
  /-- What is said about the choice of events to log. -/
  complaints : List String := []
  /-- The events, whether they are kept or not. -/
  journal : List Event := []

namespace Program

/-- The settings of logging for some arguments. -/
def loggingFor (around : Surroundings) (args : Arguments) : LoggingSettings :=
  let loaded :=
    match Session.start around args.workspace args.config with
    | .ok s => s.settings.logging
    | .error _ => {}
  { loaded with
    level := args.logLevel.getD (if args.verbose then "debug" else loaded.level)
    format := args.logFormat.getD loaded.format
    output := args.logOutput.getD loaded.output
    file := args.logFile.getD loaded.file }

/-- The events of loading the settings. -/
def loadEvents (around : Surroundings) (args : Arguments) : List Event :=
  match args.config with
  | some _ => []
  | none => Settings.loadEvents around args.workspace

/-- The paths that a run may read. -/
def readPaths (env : Environment) (args : Arguments) : List String :=
  let settings :=
    match args.config with
    | some path => [path]
    | none => Settings.layerFiles env args.workspace
  (settings.flatMap fun path =>
    path :: SourceFile.formats.map fun f => Path.addExtension f.1 path) ++
    match args.command with
    | .generate o => [Path.join args.workspace o.product]
    | .validateSettings => []

/-- The last event of a command. -/
def lastEvent : Except GenerationError String → Event
  | .ok _ => Event.of .info "" "Command completed successfully"
  | .error e => Event.of .error "" ("Command failed: " ++ e.message)

/-- Carries out a command, logging having started. -/
def carryOut (around : Surroundings) (args : Arguments) :
    FileTree × Except GenerationError String × List Event :=
  let first := Event.of .info "" "Samplegen CLI starting" :: loadEvents around args
  match Session.start around args.workspace args.config with
  | .error e =>
      (around.tree, .error e,
        first ++ [Event.of .error "" ("Error loading configuration: " ++ e.message)])
  | .ok s =>
      let (tree, result) := s.execute around args.command
      (tree, result, first ++ s.events around args.command ++ [lastEvent result])

/-- One run of the program. -/
def run (around : Surroundings) (words : List String) : Outcome :=
  match CommandLine.parse words with
  | .error fault => { ending := .usage fault, tree := around.tree }
  | .ok args =>
      let settings := loggingFor around args
      let complaints := LogPlan.complaints around.environment settings
      match (do
        let plan ← LogPlan.choose around.environment settings
        return (plan, ← plan.prepare settings around.tree)) with
      | .error fault => { ending := .noLogging fault, tree := around.tree, complaints }
      | .ok (plan, tree) =>
          let (tree, result, journal) := carryOut { around with tree := tree } args
          { ending := .command result, tree, complaints, journal
            log := some (plan, settings.file) }

end Program

namespace Outcome

/-- The events that are logged. -/
def logged (o : Outcome) : List Event :=
  match o.log with
  | some (plan, _) => o.journal.filter plan.filter.keeps
  | none => []

/-- What is printed. -/
def output (o : Outcome) : Option String :=
  match o.ending with
  | .command (.ok s) => some s
  | _ => none

/-- What is told about the failure, if the run failed for a reason other than its arguments. -/
def failure (o : Outcome) : Option String :=
  match o.ending with
  | .noLogging fault =>
      some ("Failed to initialize logging: " ++ (GenerationError.settings (.logging fault)).message)
  | .command (.error e) => some e.mapped
  | _ => none

/-- The status with which the program ends. -/
def status (o : Outcome) : UInt32 :=
  match o.ending with
  | .usage .helpWanted => 0
  | .usage _ => 2
  | .command (.ok _) => 0
  | _ => 1

end Outcome

end SampleForge
