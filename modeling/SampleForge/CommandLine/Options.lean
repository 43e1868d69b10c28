import SampleForge.Text.Pieces

/-!
# Options on a command line

A command has a list of options, each with a long name.  A flag stands alone, and any other option
has a value, which follows it or is attached to it with an equals sign.

Words are taken one by one (`Reading.take`).  An option with a value is settled only when the next
option comes or the words end (`Reading.settle`), so what is wrong with it shows then.  An option
that no one knows, and a word that is neither option nor value, are refused at once.

After the word `--` no word is an option.
-/

namespace SampleForge.CommandLine

open Text (hasStart)

/-- A reason to refuse a command line. -/
inductive UsageFault where
  /-- No option or argument of this kind is known. -/
  | unknownArgument
  /-- No command has this name. -/
  | unknownCommand
  /-- There is no command. -/
  | missingCommand
  /-- There is nothing at all. -/
  | nothingGiven
  /-- A required option is missing. -/
  | missingOption
  /-- An option that counts once is there twice. -/
  | repeatedOption
  /-- A value is missing or not possible. -/
  | badValue
  /-- A flag has a value. -/
  | unneededValue
  /-- Help is asked for. -/
  | helpWanted
  deriving DecidableEq, Repr

/-- What a refusal is about. -/
def UsageFault.message : UsageFault → String
  | .unknownArgument => "unexpected argument"
  | .unknownCommand => "unrecognized command"
  | .missingCommand => "a command is required"
  | .nothingGiven => "a command is required"
  | .missingOption => "a required option is missing"
  | .repeatedOption => "an option is given twice"
  | .badValue => "a value is missing or invalid"
  | .unneededValue => "an option takes no value"
  | .helpWanted => "help"

/-- What an option takes. -/
inductive OptionKind where
  | flag
  | text
  /-- A text that is not empty. -/
  | path
  deriving DecidableEq, Repr

/-- An option. -/
structure OptionSpec where
  /-- Its long name. -/
  name : String
  /-- What it takes. -/
  kind : OptionKind
  /-- Whether it may be there several times. -/
  repeats : Bool := false
  deriving DecidableEq, Repr

/-- The words of a command taken so far. -/
structure Reading where
  /-- The options that are settled, with their values, in order. -/
  given : List (String × String) := []
  /-- The option to settle next, with its value if that was taken. -/
  pending : Option (OptionSpec × Option String) := none
  /-- Whether the word `--` was taken. -/
  escaped : Bool := false

namespace Reading

/-- Whether the next word can be the value of an option. -/
def awaits (r : Reading) : Bool :=
  match r.pending with
  | some (_, none) => !r.escaped
  | _ => false

/-- Whether an option is settled. -/
def has (r : Reading) (name : String) : Bool := r.given.any fun g => g.1 = name

/-- The last value of an option. -/
def value? (r : Reading) (name : String) : Option String :=
  (r.given.reverse.find? fun g => g.1 = name).map (·.2)

/-- The values of an option, in order. -/
def values (r : Reading) (name : String) : List String :=
  (r.given.filter fun g => g.1 = name).map (·.2)

/-- Settles an option with its value. -/
def record (r : Reading) (spec : OptionSpec) (value : String) : Except UsageFault Reading :=
  if !spec.repeats && r.has spec.name then .error .repeatedOption
  else if spec.kind = .path && value = "" then .error .badValue
  else .ok { r with given := r.given ++ [(spec.name, value)] }

/-- Settles the pending option. -/
def settle (r : Reading) : Except UsageFault Reading :=
  match r.pending with
  | none => .ok r
  | some (_, none) => .error .badValue
  | some (spec, some value) => record { r with pending := none } spec value

/-- The name in a word that starts an option, and the value attached to it. -/
def splitOption (cs : List Char) : String × Option String :=
  match cs.dropWhile (· ≠ '=') with
  | _ :: value => (String.ofList (cs.takeWhile (· ≠ '=')), some (String.ofList value))
  | [] => (String.ofList cs, none)

/-- Takes an option. -/
def takeOption (options : List OptionSpec) (r : Reading) (name : String) (value : Option String) :
    Except UsageFault Reading :=
  if name = "help" then do
    if value.isSome then .error .unneededValue
    let _ ← r.settle
    .error .helpWanted
  else
    match options.find? fun spec => spec.name = name with
    | none => .error .unknownArgument
    | some spec =>
        if spec.kind = .flag then
          if value.isSome then .error .unneededValue else do (← r.settle).record spec "true"
        else
          match value with
          | some value => do (← r.settle).record spec value
          | none => do return { (← r.settle) with pending := some (spec, none) }

/-- Takes a word.  `stray` is the refusal of a word that is neither option nor value. -/
def take (options : List OptionSpec) (stray : Bool → String → UsageFault) (r : Reading)
    (word : String) : Except UsageFault Reading :=
  if r.escaped then .error (stray true word)
  else
    match word.toList with
    | ['-', '-'] => .ok { r with escaped := true }
    | '-' :: '-' :: cs =>
        let (name, value) := splitOption cs
        takeOption options r name value
    | '-' :: c :: _ =>
        if c = 'h' then do
          let _ ← r.settle
          .error .helpWanted
        else .error .unknownArgument
    | _ =>
        match r.pending with
        | some (spec, none) => .ok { r with pending := some (spec, some word) }
        | _ => .error (stray false word)

/-- Takes all words and settles the last option. -/
def takeAll (options : List OptionSpec) (stray : Bool → String → UsageFault) (words : List String) :
    Except UsageFault Reading := do
  (← words.foldlM (take options stray) {}).settle

end Reading

section Tests

/-- A repeated option, a path and a flag. -/
def sampleOptions : List OptionSpec :=
  [⟨"a", .text, true⟩, ⟨"p", .path, false⟩, ⟨"f", .flag, false⟩]

/-- The options in some words. -/
def sampleTaken (words : List String) : Option (List (String × String)) :=
  ((Reading.takeAll sampleOptions (fun _ _ => .unknownArgument) words).toOption).map (·.given)

example : sampleTaken ["--a", "1", "--f", "--a=2", "--p", "x"] =
    some [("a", "1"), ("f", "true"), ("a", "2"), ("p", "x")] := by decide +kernel
example : sampleTaken ["--p", "x", "--p", "y"] = none ∧ sampleTaken ["--p="] = none := by
  decide +kernel
example : sampleTaken ["--a", "-"] = some [("a", "-")] ∧ sampleTaken ["--a"] = none := by
  decide +kernel

end Tests

end SampleForge.CommandLine
