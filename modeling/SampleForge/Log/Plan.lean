import SampleForge.Files.Tree
import SampleForge.Log.Filter
import SampleForge.Settings
import SampleForge.Settings.Environment

/-!
# Plans for logging

What is logged, in which format, and where to, is decided by the environment and the settings.  The
variables `SAMPLEGEN_LOG`, `SAMPLEGEN_LOG_FORMAT` and `SAMPLEGEN_LOG_OUTPUT` come first.  The
first two count only if they make sense.

The filter of the settings is their level, which may be any list of directives, with a directive
for each of their modules.  `SAMPLEGEN_LOG_MODULES` adds more of these.  The level `off` is the end
of it.
-/

namespace SampleForge

open Text (split trim)

/-- A format of logs. -/
inductive LogFormat where
  | text
  | json
  deriving DecidableEq, Repr

/-- Where logs go. -/
inductive LogOutput where
  | stdout
  | stderr
  | file
  deriving DecidableEq, Repr

/-- What is logged, how and where to. -/
structure LogPlan where
  /-- The events that are kept. -/
  filter : LogFilter
  /-- The format. -/
  format : LogFormat
  /-- Where they go. -/
  output : LogOutput

namespace LogPlan

/-! ## The filter -/

/-- A filter with a directive for a part of the program. -/
def addModule (filter : LogFilter) (part level : String) : Except DirectiveFault LogFilter := do
  return filter.add (← Directive.parse (part ++ "=" ++ level))

/-- A filter with the directives of the modules of the settings. -/
def addModules (filter : LogFilter) (modules : KeyMap String) : Except LogFault LogFilter :=
  (modules.toList.foldlM (fun filter m => addModule filter m.1 m.2) filter).mapError .badDirective

/-- The part of the program and the level that a piece of text tells. -/
def pair? (piece : String) : Option (String × String) :=
  match split '=' piece with
  | [part, level] => some (trim part, trim level)
  | _ => none

/-- A filter with the directives of a variable. -/
def addListed (filter : LogFilter) (listed : String) : Except LogFault LogFilter :=
  (((split ',' listed).filterMap pair?).foldlM (fun filter m => addModule filter m.1 m.2)
    filter).mapError .badDirectiveFromEnvironment

/-- The filter that the environment alone tells. -/
def environmentFilter? (env : Environment) : Option LogFilter :=
  (env.get? "SAMPLEGEN_LOG").bind fun s => (LogFilter.parse s).toOption

/-- The filter of the settings. -/
def settingsFilter (env : Environment) (settings : LoggingSettings) : Except LogFault LogFilter :=
  if settings.level = "off" then .ok (LogFilter.ofText "off")
  else do
    let filter ← addModules (LogFilter.ofText settings.level) settings.modules
    match env.get? "SAMPLEGEN_LOG_MODULES" with
    | some listed => addListed filter listed
    | none => return filter

/-- The filter. -/
def filterOf (env : Environment) (settings : LoggingSettings) : Except LogFault LogFilter :=
  match environmentFilter? env with
  | some filter => .ok filter
  | none => settingsFilter env settings

/-- What is said about a level that is not well formed. -/
def complaints (env : Environment) (settings : LoggingSettings) : List String :=
  match environmentFilter? env with
  | some _ => []
  | none => LogFilter.complaints settings.level

/-! ## Format and output -/

/-- The formats by their names. -/
def formats : List (String × LogFormat) := [("json", .json), ("text", .text)]

/-- The outputs by their names. -/
def outputs : List (String × LogOutput) :=
  [("stdout", .stdout), ("stderr", .stderr), ("file", .file)]

/-- The format. -/
def formatOf (env : Environment) (settings : LoggingSettings) : Except LogFault LogFormat :=
  match ((env.get? "SAMPLEGEN_LOG_FORMAT").bind (findPair? · formats)).or
      (findPair? settings.format formats) with
  | some format => .ok format
  | none => .error (.badFormat settings.format)

/-- Where logs go. -/
def outputOf (env : Environment) (settings : LoggingSettings) : Except LogFault LogOutput :=
  let name := (env.get? "SAMPLEGEN_LOG_OUTPUT").getD settings.output
  match findPair? name outputs with
  | some output => .ok output
  | none => .error (.badOutput name)

/-- The plan. -/
def choose (env : Environment) (settings : LoggingSettings) : Except LogFault LogPlan := do
  return ⟨← filterOf env settings, ← formatOf env settings, ← outputOf env settings⟩

/-! ## The log file -/

/-- The tree with the log file in it, its directories made if they are missing. -/
def openFile (tree : FileTree) (path : String) : Except LogFault FileTree :=
  match (Path.parent? path).map tree.makeDirectories with
  | some (_, some fault) => .error (.noDirectory fault)
  | made =>
      let tree := (made.map (·.1)).getD tree
      (tree.appendFile path []).mapError (.noFile path)

/-- The tree that logging starts with. -/
def prepare (plan : LogPlan) (settings : LoggingSettings) (tree : FileTree) :
    Except LogFault FileTree :=
  match plan.output with
  | .file => openFile tree settings.file
  | _ => .ok tree

end LogPlan

section Tests

example : (LogPlan.outputOf ⟨[("SAMPLEGEN_LOG_OUTPUT", "")]⟩ {}).toOption = none := by
  decide +kernel
example : (LogPlan.formatOf ⟨[("SAMPLEGEN_LOG_FORMAT", "xml")]⟩ {}).toOption = some .text := by
  decide +kernel
example : LogPlan.pair? " a = debug " = some ("a", "debug") := by decide +kernel

end Tests

end SampleForge
