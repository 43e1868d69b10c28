import SampleForge.Log.Fault
import SampleForge.Text.AlphanumericTable
import SampleForge.Text.Blank
import SampleForge.Text.Digits
import SampleForge.Text.NumeralTable

/-!
# Patterns of fields

A directive may ask for the value of a field by a regular expression.  The program opens no span,
so such a pattern never meets a value.  All that is asked of it is whether it is well formed
(`Pattern.fault?`).

A pattern is read by a walk along its characters (`State.step`).  Groups and classes that are open
wait on a stack each.  Of what is finished only the depth of its nesting is kept, which must not
pass `deepest`.

A pattern speaks of all the characters of Unicode, but no table of them is at hand.  Where one
would be needed the pattern is refused: for a class by a letter or a property, such as `\d`, and
for anything that is to hold in either case (`Mode.allows`).  Under the flags `(?-u)` it speaks of
ASCII alone, and whatever could match a part of a longer character is refused.  A boundary of words
needs `(?-u)` as well, and has a refusal of its own.

A repetition with a count and a look ahead or behind are refused.  A field ends at the brace or the
equals sign that they need.
-/

namespace SampleForge.Pattern

open Text (hexValue? inRuns isBlank)

/-- How the characters of a pattern are taken. -/
structure Mode where
  /-- Letters stand for both of their cases. -/
  caseless : Bool := false
  /-- Characters are those of Unicode, and not of ASCII alone. -/
  unicode : Bool := true
  /-- Blanks and comments are passed over. -/
  spaced : Bool := false
  deriving DecidableEq, Repr

/-- What one character or one escape stands for. -/
inductive Sign where
  /-- A character.  It may be told as a byte, by two hexadecimal digits. -/
  | character (c : Char) (byte : Bool)
  /-- One of the classes with a letter of their own, or all that is not in it. -/
  | kind (negated : Bool)
  /-- The start or the end of the text or of a line. -/
  | edge
  /-- A place where a word starts or ends, or where none does. -/
  | boundary
  deriving DecidableEq, Repr

namespace Mode

/-- Whether a sign may stand by itself. -/
def allows (mode : Mode) : Sign → Bool
  | .character c byte => if mode.unicode then !mode.caseless else !(byte && 0x80 ≤ c.toNat)
  | .kind negated => !mode.unicode && !negated
  | .edge | .boundary => true

/-- Whether a sign may stand in a class. -/
def allowsInClass (mode : Mode) : Sign → Bool
  | .character c _ => if mode.unicode then !mode.caseless else c.toNat < 0x80
  | .kind negated => !mode.unicode && !negated
  | .edge | .boundary => false

/-- Whether a class with a name may stand in a class. -/
def allowsNamed (mode : Mode) (negated : Bool) : Bool :=
  if mode.unicode then !mode.caseless else !negated

/-- Whether a class may be told by what is not in it. -/
def allowsNegation (mode : Mode) : Bool := mode.unicode

/-- The letters of the flags. -/
def letters : List Char := ['i', 'm', 's', 'U', 'u', 'R', 'x', '-']

/-- Whether letters tell flags.  None comes twice, and something follows the dash. -/
def areFlags (flags : List Char) : Bool :=
  flags.all letters.contains && decide flags.Nodup && flags.getLast? ≠ some '-'

/-- Whether a flag is on after flags are told.  Those after a dash go off. -/
def flag (before : Bool) (letter : Char) (flags : List Char) : Bool :=
  if (flags.takeWhile (· ≠ '-')).contains letter then true
  else if flags.contains letter then false
  else before

/-- The mode after flags are told. -/
def change (mode : Mode) (flags : List Char) : Mode :=
  { caseless := flag mode.caseless 'i' flags
    unicode := flag mode.unicode 'u' flags
    spaced := flag mode.spaced 'x' flags }

/-- The characters after blanks and comments. -/
def skipSpaced (inComment : Bool) : List Char → List Char
  | [] => []
  | c :: cs =>
      if inComment then skipSpaced (c ≠ '\n') cs
      else if isBlank c then skipSpaced false cs
      else if c = '#' then skipSpaced true cs
      else c :: cs

/-- The characters after what the mode passes over. -/
def skip (mode : Mode) (cs : List Char) : List Char :=
  if mode.spaced then skipSpaced false cs else cs

/-- The character that decides what a dash in a class is.  A comment is not passed over here, but
the sign that starts it is. -/
def afterDash? (mode : Mode) (cs : List Char) : Option Char :=
  if mode.spaced then
    match cs.dropWhile isBlank with
    | '#' :: comment => (comment.dropWhile isBlank).head?
    | cs => cs.head?
  else cs.head?

end Mode

/-! ## Signs -/

/-- The number that a count of hexadecimal digits adds to the digits before them. -/
def number? (mode : Mode) : Nat → Nat → List Char → Option (Nat × List Char)
  | 0, n, cs => some (n, cs)
  | count + 1, n, cs =>
      match mode.skip cs with
      | [] => none
      | c :: cs => (hexValue? c).bind fun digit => number? mode count (16 * n + digit) cs

/-- The character that its number tells. -/
def coded? (mode : Mode) (digits : Nat) (cs : List Char) : Option (Sign × List Char) :=
  (number? mode digits 0 cs).bind fun (n, cs) =>
    if n.isValidChar then some (.character (Char.ofNat n) (digits = 2), cs) else none

/-- The characters with a letter of their own. -/
def lettered : List (Char × Char) :=
  [('a', '\x07'), ('f', '\x0c'), ('t', '\t'), ('n', '\n'), ('r', '\r'), ('v', '\x0b')]

/-- The character that a backslash in front of a character tells. -/
def escaped? (c : Char) : Option Char :=
  match lettered.find? fun pair => pair.1 = c with
  | some pair => some pair.2
  | none => if c.toNat < 0x80 && !c.isAlphanum then some c else none

/-- The sign after a backslash. -/
def escape? (mode : Mode) : List Char → Option (Sign × List Char)
  | [] => none
  | c :: cs =>
      if c = 'x' then coded? mode 2 cs
      else if c = 'u' then coded? mode 4 cs
      else if c = 'U' then coded? mode 8 cs
      else if ['d', 's', 'w'].contains c then some (.kind false, cs)
      else if ['D', 'S', 'W'].contains c then some (.kind true, cs)
      else if ['A', 'z'].contains c then some (.edge, cs)
      else if ['b', 'B', '<', '>'].contains c then some (.boundary, cs)
      else (escaped? c).map fun c => (.character c false, cs)

/-- The sign at the start of a text, whatever its characters mean outside of classes. -/
def sign? (mode : Mode) : List Char → Option (Sign × List Char)
  | [] => none
  | '\\' :: cs => escape? mode cs
  | c :: cs => some (.character c false, cs)

/-- How deep things are nested that stand together.  A single one is nested no deeper. -/
def together : List Nat → Nat
  | [] => 0
  | [depth] => depth
  | depth :: depths => depths.foldl max depth + 1

/-! ## Classes -/

/-- A class that is being read. -/
structure Bracket where
  /-- How deep the parts of the last operand are nested. -/
  parts : List Nat := []
  /-- How deep the operands before it are nested, if there are any. -/
  operands : Option Nat := none
  /-- Whether nothing but dashes came so far.  At the start a dash stands for itself, and so does a
  closing bracket. -/
  opening : Bool := true

namespace Bracket

/-- How deep a class is nested inside of its brackets. -/
def depth (bracket : Bracket) : Nat :=
  match bracket.operands with
  | some operands => max operands (together bracket.parts) + 1
  | none => together bracket.parts

/-- The class with a part added. -/
def add (bracket : Bracket) (depth : Nat) : Bracket :=
  { bracket with parts := depth :: bracket.parts, opening := false }

/-- The class in front of its next operand. -/
def nextOperand (bracket : Bracket) : Bracket :=
  { parts := [], operands := some bracket.depth, opening := false }

end Bracket

/-- The names of classes. -/
def classNames : List String :=
  ["alnum", "alpha", "ascii", "blank", "cntrl", "digit", "graph", "lower", "print", "punct",
    "space", "upper", "word", "xdigit"]

/-- What follows the name of a class, and whether the class is negated. -/
def named? : List Char → Option (Bool × List Char)
  | ':' :: cs =>
      let (negated, cs) :=
        match cs with
        | '^' :: cs => (true, cs)
        | cs => (false, cs)
      let (name, rest) := cs.span (· ≠ ':')
      match rest with
      | ':' :: ']' :: rest =>
          if classNames.contains (String.ofList name) then some (negated, rest) else none
      | _ => none
  | _ => none

/-- What follows a character, an escape or a range in a class. -/
def range? (mode : Mode) (cs : List Char) : Option (List Char) := do
  let (first, cs) ← sign? mode cs
  let single := if mode.allowsInClass first then some cs else none
  match mode.skip cs with
  | '-' :: cs =>
      if [some ']', some '-'].contains (mode.afterDash? cs) then single
      else
        match first, ← sign? mode (mode.skip cs) with
        | .character a x, (.character b y, cs) =>
            if mode.allowsInClass (.character a x) && mode.allowsInClass (.character b y) && a ≤ b
            then some cs
            else none
        | _, _ => none
  | _ => single

/-! ## Groups -/

/-- A part of a pattern that is being read: a group, or the whole. -/
structure Group where
  /-- How deep the items of the last alternative are nested, the last item first.  Flags stand
  there as an item that nothing repeats. -/
  items : List (Option Nat) := []
  /-- How deep the alternatives before it are nested. -/
  alternatives : List Nat := []

namespace Group

/-- How deep the last alternative is nested. -/
def alternative (group : Group) : Nat := together (group.items.map (·.getD 0))

/-- How deep a group is nested inside of its parentheses. -/
def depth (group : Group) : Nat := together (group.alternative :: group.alternatives)

/-- The group with an item added. -/
def add (group : Group) (item : Option Nat) : Group := { group with items := item :: group.items }

/-- The group in front of its next alternative. -/
def nextAlternative (group : Group) : Group :=
  { items := [], alternatives := group.alternative :: group.alternatives }

/-- The group with its last item repeated. -/
def repeatLast? (group : Group) : Option Group :=
  match group.items with
  | some depth :: items => some { group with items := some (depth + 1) :: items }
  | _ => none

end Group

/-- Whether a character may stand in the name of a group. -/
def isNameChar (c : Char) : Bool :=
  ['_', '.', '[', ']'].contains c || c.isAlphanum || inRuns Text.alphanumericRuns c.toNat

/-- Whether the name of a group may start with a character. -/
def isNameStart (c : Char) : Bool :=
  c = '_' || c.isAlpha ||
    inRuns Text.alphanumericRuns c.toNat && !inRuns Text.numeralRuns c.toNat

/-- Whether characters are a name of a group. -/
def isName : List Char → Bool
  | [] => false
  | c :: cs => isNameStart c && cs.all isNameChar

/-! ## The walk -/

/-- What is known of a pattern after a part of it. -/
structure State where
  /-- How the next characters are taken. -/
  mode : Mode := {}
  /-- The innermost group. -/
  group : Group := {}
  /-- The groups around it, the innermost first, each with the mode that it comes back to. -/
  around : List (Group × Mode) := []
  /-- The classes that are open, the innermost first. -/
  brackets : List Bracket := []
  /-- The names of the groups so far. -/
  names : List (List Char) := []
  /-- Whether there is a boundary of words among all characters. -/
  bounded : Bool := false

namespace State

/-- The state after an item. -/
def add (s : State) (item : Option Nat) : State := { s with group := s.group.add item }

/-- The state after a sign that stands by itself. -/
def addSign? (s : State) (sign : Sign) : Option State :=
  if s.mode.allows sign then
    some { s.add (some 0) with bounded := s.bounded || s.mode.unicode && sign = .boundary }
  else none

/-- The state inside a new group. -/
def enter (s : State) (mode : Mode) : State :=
  { s with mode := mode, group := {}, around := (s.group, s.mode) :: s.around }

/-- The state after the end of a group. -/
def leave? (s : State) : Option State :=
  match s.around with
  | [] => none
  | (group, mode) :: around =>
      some { s with mode := mode, group := group.add (some (s.group.depth + 1)), around := around }

/-- Opens a group whose name follows. -/
def openNamed? (s : State) (cs : List Char) : Option (State × List Char) :=
  let (name, rest) := cs.span (· ≠ '>')
  match rest with
  | '>' :: rest =>
      if isName name && !s.names.contains name then
        some ({ s.enter s.mode with names := name :: s.names }, rest)
      else none
  | _ => none

/-- Reads flags, which hold for the rest of the group or for a group of their own. -/
def openFlags? (s : State) (cs : List Char) : Option (State × List Char) :=
  let (flags, rest) := cs.span fun c => c ≠ ':' && c ≠ ')'
  if Mode.areFlags flags then
    match rest with
    | ':' :: rest => some (s.enter (s.mode.change flags), rest)
    | ')' :: rest =>
        if flags = [] then none else some ({ s with mode := s.mode.change flags }.add none, rest)
    | _ => none
  else none

/-- Reads what follows an opening parenthesis. -/
def openGroup? (s : State) : List Char → Option (State × List Char)
  | '?' :: 'P' :: '<' :: cs => s.openNamed? cs
  | '?' :: '<' :: cs => s.openNamed? cs
  | '?' :: cs => s.openFlags? cs
  | cs => some (s.enter s.mode, cs)

/-- Reads what follows an opening bracket. -/
def openBracket? (s : State) (cs : List Char) : Option (State × List Char) :=
  let inside := { s with brackets := {} :: s.brackets }
  match s.mode.skip cs with
  | '^' :: cs => if s.mode.allowsNegation then some (inside, cs) else none
  | cs => some (inside, cs)

/-- The state after the end of a class with others around it. -/
def closeBracket (s : State) (bracket : Bracket) : List Bracket → State
  | [] => { s with brackets := [] }.add (some (bracket.depth + 1))
  | outer :: brackets => { s with brackets := outer.add (bracket.depth + 1) :: brackets }

/-- One step inside a class with others around it. -/
def stepInside (s : State) (bracket : Bracket) (outer : List Bracket) (c : Char)
    (cs : List Char) : Option (State × List Char) :=
  let among (bracket : Bracket) : State := { s with brackets := bracket :: outer }
  if bracket.opening && (c = '-' || c = ']' && bracket.parts = []) then
    if s.mode.allowsInClass (.character c false) then
      some (among { bracket.add 0 with opening := c = '-' }, cs)
    else none
  else if c = '[' then
    match named? cs with
    | some (negated, cs) =>
        if s.mode.allowsNamed negated then some (among (bracket.add 0), cs) else none
    | none => (among { bracket with opening := false }).openBracket? cs
  else if c = ']' then some (s.closeBracket bracket outer, cs)
  else if ['&', '-', '~'].contains c && cs.head? = some c then
    some (among bracket.nextOperand, cs.drop 1)
  else (range? s.mode (c :: cs)).map fun cs => (among (bracket.add 0), cs)

/-- What follows the mark that makes a repetition as short as it can be. -/
def dropLazy : List Char → List Char
  | '?' :: cs => cs
  | cs => cs

/-- One step outside of classes. -/
def stepOutside (s : State) (c : Char) (cs : List Char) : Option (State × List Char) :=
  match c with
  | '(' => s.openGroup? (s.mode.skip cs)
  | ')' => s.leave?.map fun s => (s, cs)
  | '|' => some ({ s with group := s.group.nextAlternative }, cs)
  | '[' => s.openBracket? cs
  | '*' | '+' | '?' => s.group.repeatLast?.map fun group => ({ s with group := group }, dropLazy cs)
  | '\x7b' => none
  | '.' => if s.mode.unicode then some (s.add (some 0), cs) else none
  | '^' | '$' => (s.addSign? .edge).map fun s => (s, cs)
  | _ => (sign? s.mode (c :: cs)).bind fun (sign, cs) => (s.addSign? sign).map fun s => (s, cs)

/-- One step. -/
def step (s : State) (c : Char) (cs : List Char) : Option (State × List Char) :=
  match s.brackets with
  | bracket :: outer => s.stepInside bracket outer c cs
  | [] => s.stepOutside c cs

/-- The state at the end of a text.  A step takes one character at least. -/
def walk? : Nat → State → List Char → Option State
  | 0, _, _ => none
  | fuel + 1, s, cs =>
      match s.mode.skip cs with
      | [] => some s
      | c :: cs => (s.step c cs).bind fun (s, cs) => walk? fuel s cs

/-- How deep a pattern may be nested. -/
def deepest : Nat := 250

/-- Whether a pattern may end. -/
def isComplete (s : State) : Bool :=
  s.around.isEmpty && s.brackets.isEmpty && s.group.depth ≤ deepest

end State

/-- What is wrong with a pattern. -/
def fault? (s : String) : Option PatternFault :=
  match State.walk? (s.length + 1) {} s.toList with
  | some state =>
      if state.isComplete then if state.bounded then some .wordBoundary else none
      else some .malformed
  | none => some .malformed

section Tests

example : fault? "" = none ∧ fault? "a**|(b)+?." = none := by decide +kernel
example : fault? "*" = some .malformed ∧ fault? "a|*" = some .malformed := by decide +kernel
example : fault? "a)" = some .malformed ∧ fault? "(a" = some .malformed := by decide +kernel
/-- A pattern speaks of Unicode, unless it says otherwise. -/
example : fault? "\\d" = some .malformed ∧ fault? "(?-u)\\d" = none := by decide +kernel
example : fault? "(?-u:a)\\b" = some .wordBoundary ∧ fault? "(?-u:a\\b)" = none := by
  decide +kernel
/-- A closing bracket at the start of a class stands for itself. -/
example : fault? "[]a-z]" = none ∧ fault? "[z-a]" = some .malformed := by decide +kernel
example : fault? "[[:alpha:]&&[^a]]" = none ∧ fault? "[^]" = some .malformed := by
  decide +kernel
/-- Flags are no item. -/
example : fault? "(?x) a # (" = none ∧ fault? "(?x)*" = some .malformed := by decide +kernel
example : fault? "(?P<a>b)(?<c>d)" = none ∧ fault? "(?<a>b)(?<a>d)" = some .malformed := by
  decide +kernel
example : fault? "\\x41[\\u0030-9]" = none ∧ fault? "\\uD800" = some .malformed := by
  decide +kernel

end Tests

end SampleForge.Pattern
