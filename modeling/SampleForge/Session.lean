import SampleForge.Artifact.Write
import SampleForge.CommandLine.Arguments
import SampleForge.Product.Json
import SampleForge.Report
import SampleForge.Settings.Load

/-!
# Sessions

A session carries out one command in a workspace with loaded settings.

* `plan` does all of the work of `generate` that needs no writing: it checks the format and the
  settings, reads the product and runs the generators.  A plan holds the report and the directory
  to write to, if there is one.
* `Plan.carryOut` writes the files of the report.
* `generate` is one after the other, and then renders the report.

So everything that can be refused without touching a file is refused before the first one is
written.
-/

namespace SampleForge

open CommandLine (Command GenerateOptions)

/-- A workspace with the settings for it. -/
structure Session where
  /-- The directory of the workspace. -/
  workspace : String
  /-- The settings. -/
  settings : Settings

namespace Session

/-- The session that a command line asks for. -/
def start (around : Surroundings) (workspace : String) (config : Option String) :
    Except GenerationError Session := do
  let settings ←
    (match config with
      | some path => Settings.loadFile around path
      | none => Settings.load around workspace).mapError GenerationError.settings
  return ⟨workspace, settings⟩

/-- A path seen from the workspace. -/
def resolve (s : Session) (path : String) : String := Path.join s.workspace path

/-- A list, or another if it is empty. -/
def orElse {α : Type} (list other : List α) : List α := if list.isEmpty then other else list

/-- The settings with the options of a command in their place. -/
def settingsFor (s : Session) (o : GenerateOptions) : Settings :=
  let g := s.settings.generation
  { s.settings with
    generation := { g with
      artifacts := orElse o.artifacts g.artifacts
      snippets := orElse o.snippets g.snippets
      outputDir := o.out.or g.outputDir } }

/-- A product in JSON with a language, if it has none. -/
def withLanguage (language : Language) : Json.Value → Json.Value
  | .object fields =>
      .object (match findPair? "language" fields with
        | some _ => fields
        | none => insertPair "language" (.text language.word) fields)
  | v => v

/-- The product at a path. -/
def readProduct (s : Session) (around : Surroundings) (settings : GenerationSettings)
    (path : String) : Except GenerationError Product := do
  let text ← (around.tree.readText (s.resolve path)).mapError .file
  match Json.read? text with
  | none => .error (.serialization .malformed)
  | some v =>
      let language ← settings.targetLanguage
      let product ← (Product.read around.now (withLanguage language v)).mapError
        fun fault => .serialization (.mismatch fault)
      return { product with timestamp := settings.frozenTimestamp.getD product.timestamp }

/-! ## Plans -/

/-- The outcome of the generators, and what to do with it. -/
structure Plan where
  /-- The outcome. -/
  report : Report
  /-- The directory that files are written to. -/
  directory : Option String

/-- Refuses an output format that is not known. -/
def checkFormat (format : String) : Except GenerationError Unit :=
  if format = "text" ∨ format = "json" then .ok ()
  else .error (.settings (.badOutputFormat format))

/-- All of the work of `generate` that needs no writing. -/
def plan (s : Session) (around : Surroundings) (o : GenerateOptions) :
    Except GenerationError Plan := do
  checkFormat o.format
  let settings ← (s.settingsFor o).validated
  let product ← s.readProduct around settings.generation o.product
  let selection ← settings.generation.selection
  let report ← (Orchestrator.builtIn product).run selection product.diagnostics
  return ⟨report, settings.generation.outputDir.map s.resolve⟩

/-- Writes the files of a plan. -/
def Plan.carryOut (p : Plan) (tree : FileTree) : FileTree × Except GenerationError Unit :=
  match p.directory with
  | none => (tree, .ok ())
  | some directory =>
      let (tree, written) := p.report.artifacts.writeTo tree directory
      (tree, written.map fun _ => ())

/-- The report in an output format. -/
def render (format : String) (report : Report) : String :=
  if format = "json" then report.renderJson else report.renderText

/-! ## Commands -/

/-- The tree after `generate`, and what it prints. -/
def generate (s : Session) (around : Surroundings) (o : GenerateOptions) :
    FileTree × Except GenerationError String :=
  match s.plan around o with
  | .error e => (around.tree, .error e)
  | .ok p =>
      let (tree, written) := p.carryOut around.tree
      (tree, written.map fun _ => render o.format p.report)

/-- What `validate-config` prints. -/
def validateSettings (s : Session) : Except GenerationError String :=
  if s.settings.problems.isEmpty then .ok s.settings.validationText
  else .error (.settings (.reported s.settings.problems))

/-- The tree after a command, and what it prints. -/
def execute (s : Session) (around : Surroundings) :
    Command → FileTree × Except GenerationError String
  | .generate o => s.generate around o
  | .validateSettings => (around.tree, s.validateSettings)

end Session

end SampleForge
