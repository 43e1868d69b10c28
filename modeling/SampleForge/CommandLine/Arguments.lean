import SampleForge.CommandLine.Options

/-!
# The command line

The program has two commands, `generate` and `validate-config`.  Options in front of the command
hold for both, and the options of a command follow it.  The word `help` in the place of a command
asks for help.

The words after a command are read before the last option in front of it is settled.
-/

namespace SampleForge.CommandLine

/-- The options of `generate`. -/
structure GenerateOptions where
  /-- The path of the product. -/
  product : String
  /-- The artifact kinds that take the place of the configured ones, if there are any. -/
  artifacts : List String := []
  /-- The inputs that take the place of the configured ones, if there are any. -/
  snippets : List String := []
  /-- Where files are written. -/
  out : Option String := none
  /-- The format of what is printed. -/
  format : String := "text"
  deriving DecidableEq, Repr

/-- A command. -/
inductive Command where
  | generate (options : GenerateOptions)
  | validateSettings
  deriving DecidableEq, Repr

/-- A command with the options in front of it. -/
structure Arguments where
  /-- The command. -/
  command : Command
  /-- The directory of the workspace. -/
  workspace : String := "."
  /-- A single file of settings. -/
  config : Option String := none
  /-- Whether more events are logged. -/
  verbose : Bool := false
  /-- The level of logging. -/
  logLevel : Option String := none
  /-- The format of logs. -/
  logFormat : Option String := none
  /-- Where logs go. -/
  logOutput : Option String := none
  /-- The log file. -/
  logFile : Option String := none
  deriving DecidableEq, Repr

/-- The options in front of a command. -/
def commonOptions : List OptionSpec :=
  [⟨"workspace", .path, false⟩, ⟨"config", .path, false⟩, ⟨"verbose", .flag, false⟩,
    ⟨"log-level", .text, false⟩, ⟨"log-format", .text, false⟩, ⟨"log-output", .text, false⟩,
    ⟨"log-file", .path, false⟩]

/-- The options of `generate`. -/
def generateOptions : List OptionSpec :=
  [⟨"product", .path, false⟩, ⟨"artifact", .text, true⟩, ⟨"snippet", .text, true⟩,
    ⟨"out", .path, false⟩, ⟨"format", .text, false⟩]

/-- The names of the commands. -/
def commandNames : List String := ["generate", "validate-config", "help"]

/-- The command `generate` with the options after it. -/
def readGenerate (words : List String) : Except UsageFault Command := do
  let r ← Reading.takeAll generateOptions (fun _ _ => .unknownArgument) words
  match r.value? "product" with
  | none => .error .missingOption
  | some product =>
      return .generate {
        product, artifacts := r.values "artifact", snippets := r.values "snippet"
        out := r.value? "out", format := (r.value? "format").getD "text" }

/-- The refusal of words after `help`: they must name a command. -/
def readHelp : List String → UsageFault
  | [] => .helpWanted
  | [name] => if name ∈ commandNames then .helpWanted else .unknownCommand
  | _ => .unknownCommand

/-- The command with a name and the words after it. -/
def readCommand (name : String) (words : List String) : Except UsageFault Command :=
  if name = "generate" then readGenerate words
  else if name = "validate-config" then do
    let _ ← Reading.takeAll [] (fun _ _ => .unknownArgument) words
    return .validateSettings
  else .error (readHelp words)

/-- The refusal of a word in front of a command that is neither option nor value. -/
def strayWord (escaped : Bool) (word : String) : UsageFault :=
  if escaped && word ∈ commandNames then .unknownArgument else .unknownCommand

/-- The options in front of a command, and the command with the words after it. -/
def splitAtCommand (r : Reading) :
    List String → Except UsageFault (Reading × Option (String × List String))
  | [] => .ok (r, none)
  | word :: rest =>
      if !r.escaped && !r.awaits && word ∈ commandNames then .ok (r, some (word, rest))
      else do splitAtCommand (← r.take commonOptions strayWord word) rest

/-- The arguments that words tell. -/
def parse (words : List String) : Except UsageFault Arguments := do
  let (r, command) ← splitAtCommand {} words
  match command with
  | none =>
      let r ← r.settle
      .error (if r.given.isEmpty then .nothingGiven else .missingCommand)
  | some (name, rest) =>
      let command ← readCommand name rest
      let r ← r.settle
      return {
        command, workspace := (r.value? "workspace").getD ".", config := r.value? "config"
        verbose := r.has "verbose", logLevel := r.value? "log-level"
        logFormat := r.value? "log-format", logOutput := r.value? "log-output"
        logFile := r.value? "log-file" }

/-! ## Usage -/

/-- How an option is written. -/
def optionUsage (spec : OptionSpec) : String :=
  "  --" ++ spec.name ++ if spec.kind = .flag then "" else " <VALUE>"

/-- How the program is used, line by line. -/
def usage : List String :=
  ["Usage: samplegen [OPTIONS] <COMMAND>", "", "Options:"] ++ commonOptions.map optionUsage ++
    ["", "Commands:", "  validate-config", "  generate, with the options"] ++
      generateOptions.map fun spec => "  " ++ optionUsage spec

section Tests

/-- The refusal of some words. -/
def sampleRefusal (words : List String) : Option UsageFault :=
  match parse words with
  | .error fault => some fault
  | .ok _ => none

example : (parse ["--verbose", "generate", "--product", "p", "--artifact", "test"]).toOption =
    some { command := .generate { product := "p", artifacts := ["test"] }, verbose := true } := by
  decide +kernel
example : sampleRefusal [] = some .nothingGiven := by decide +kernel
example : sampleRefusal ["--verbose"] = some .missingCommand := by decide +kernel
example : sampleRefusal ["--config", "", "generate"] = some .missingOption := by decide +kernel
example : sampleRefusal ["--", "generate"] = some .unknownArgument := by decide +kernel
example : sampleRefusal ["help", "help"] = some .helpWanted := by decide +kernel

end Tests

end SampleForge.CommandLine
