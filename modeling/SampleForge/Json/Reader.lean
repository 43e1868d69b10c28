import SampleForge.Json.Value
import SampleForge.Text.Digits

/-!
# Reading JSON

A text is read in two passes, each a walk along a list.

1. `lex` cuts the characters into tokens: brackets, commas, colons, texts and words.  A word is a
   number or one of `null`, `true`, `false`.
2. `parse` builds the value from the tokens.  It keeps the unfinished lists and objects around the
   present place as a stack of frames, so a value ends when the stack is empty.  At most 127 lists
   and objects may be open at once.

A number without a point or an exponent is whole when it fits in 64 bits, signed or not, and
floating otherwise.  The digits of a floating number are kept as long as they fit in 64 unsigned
bits.  What is kept is then scaled by a power of ten, with one rounding for each step of at most
308 powers.
-/

namespace SampleForge.Json

open SampleForge.Text (digitValue decimalValue hexValue? signedLimit unsignedLimit)

/-! ## Numbers -/

/-- The digits at the start of a list of characters, and the rest. -/
def spanDigits (cs : List Char) : List Char × List Char := cs.span Char.isDigit

/-- Digits added to a number as long as it fits in 64 bits: the number and how many digits were
left over. -/
def addDigits (n : Nat) : List Char → Nat × Nat
  | [] => (n, 0)
  | c :: cs =>
      let next := 10 * n + digitValue c
      if next < unsignedLimit then addDigits next cs else (n, cs.length + 1)

/-- The magnitude of ten to a power of at most 308. -/
def tenTo (n : Nat) : Nat := Binary64.nearestDecimal 1 n

/-- A magnitude divided by powers of ten, 308 at a time and the rest last. -/
def divideSteps (magnitude : Nat) : Nat → Nat → Nat
  | 0, rest => Binary64.quotient magnitude (tenTo rest)
  | steps + 1, rest => divideSteps (Binary64.quotient magnitude (tenTo 308)) steps rest

/-- A whole number scaled by a power of ten, unless that is out of range. -/
def scale? (digits : Nat) (exponent : Int) : Option Nat :=
  let magnitude := Binary64.nearest digits 1
  if 0 ≤ exponent then
    if digits = 0 then some 0
    else if 308 < exponent then none
    else
      let m := Binary64.product magnitude (tenTo exponent.toNat)
      if m = Binary64.infinityBits then none else some m
  else
    let n := (-exponent).toNat
    if digits = 0 || 1000 < n then some 0
    else some (divideSteps magnitude ((n - 1) / 308) (n - 308 * ((n - 1) / 308)))

/-- The exponent part of a number: absent, or a power with its sign.  A power too large for 32 bits
is cut to one that is as good. -/
def exponent? : List Char → Option Int
  | [] => some 0
  | e :: cs =>
      if e = 'e' || e = 'E' then
        let (negative, digits) :=
          match cs with
          | '+' :: rest => (false, rest)
          | '-' :: rest => (true, rest)
          | rest => (false, rest)
        if digits.isEmpty || !digits.all Char.isDigit then none
        else
          let n := min (decimalValue digits) 100000000
          some (if negative then -(n : Int) else n)
      else none

/-- The floating value of the parts of a number. -/
def real? (negative : Bool) (whole fraction : List Char) (exponent : Int) : Option Value :=
  let (n, left) := addDigits 0 whole
  let (n, shift) :=
    if left = 0 then
      let (m, dropped) := addDigits n fraction
      (m, -((fraction.length - dropped : Nat) : Int))
    else
      match fraction with
      | [] => (n, (left : Int))
      | _ =>
          let (m, dropped) := addDigits n fraction
          (m, (left : Int) - ((fraction.length - dropped : Nat) : Int))
  (scale? n (exponent + shift)).map fun m => .real (Binary64.signed negative m)

/-- The value of an unsigned number. -/
def number? (negative : Bool) (cs : List Char) : Option Value :=
  let (whole, rest) := spanDigits cs
  if whole.isEmpty || (1 < whole.length && whole.head? == some '0') then none
  else
    match rest with
    | [] =>
        let n := decimalValue whole
        if negative then
          if 0 < n && n ≤ signedLimit then some (.int (-n)) else real? true whole [] 0
        else if n < unsignedLimit then some (.int n)
        else real? false whole [] 0
    | '.' :: after =>
        let (fraction, last) := spanDigits after
        if fraction.isEmpty then none
        else (exponent? last).bind (real? negative whole fraction)
    | last => (exponent? last).bind (real? negative whole [])

/-! ## Tokens -/

/-- A token. -/
inductive Token where
  | openList
  | closeList
  | openObject
  | closeObject
  | comma
  | colon
  | text (s : String)
  | word (v : Value)

/-- The value of a word. -/
def word? (cs : List Char) : Option Value :=
  if cs = ['n', 'u', 'l', 'l'] then some .null
  else if cs = ['t', 'r', 'u', 'e'] then some (.bool true)
  else if cs = ['f', 'a', 'l', 's', 'e'] then some (.bool false)
  else
    match cs with
    | '-' :: rest => number? true rest
    | cs => number? false cs

/-- Where the lexer stands.  Characters are collected last first. -/
inductive LexState where
  /-- Between tokens. -/
  | between
  /-- In a word. -/
  | word (seen : List Char)
  /-- In a text. -/
  | text (seen : List Char)
  /-- After a backslash in a text. -/
  | escape (seen : List Char)
  /-- In the hexadecimal digits of a UTF-16 unit, after the first unit of a pair if there is one. -/
  | unit (seen : List Char) (first : Option Nat) (left value : Nat)
  /-- After the first unit of a pair. -/
  | pair (seen : List Char) (first : Nat)
  /-- After the first unit of a pair and a backslash. -/
  | pairEscape (seen : List Char) (first : Nat)

/-- The character that an escape of one letter stands for. -/
def escaped? (c : Char) : Option Char :=
  match c with
  | '"' => some '"'
  | '\\' => some '\\'
  | '/' => some '/'
  | 'b' => some '\x08'
  | 'f' => some '\x0c'
  | 'n' => some '\n'
  | 'r' => some '\r'
  | 't' => some '\t'
  | _ => none

/-- The state after a complete UTF-16 unit. -/
def afterUnit (seen : List Char) (first : Option Nat) (n : Nat) : Option LexState :=
  match first with
  | some high =>
      if 0xDC00 ≤ n && n ≤ 0xDFFF then
        some (.text (Char.ofNat (0x10000 + (high - 0xD800) * 0x400 + (n - 0xDC00)) :: seen))
      else none
  | none =>
      if 0xD800 ≤ n && n ≤ 0xDBFF then some (.pair seen n)
      else if 0xDC00 ≤ n && n ≤ 0xDFFF then none
      else some (.text (Char.ofNat n :: seen))

/-- One character inside a text. -/
def stepText (state : LexState) (c : Char) : Option LexState :=
  match state with
  | .text seen =>
      if c = '\\' then some (.escape seen)
      else if c.toNat < 0x20 then none
      else some (.text (c :: seen))
  | .escape seen =>
      if c = 'u' then some (.unit seen none 4 0)
      else (escaped? c).map fun e => .text (e :: seen)
  | .unit seen first left value =>
      (hexValue? c).bind fun d =>
        if left ≤ 1 then afterUnit seen first (16 * value + d)
        else some (.unit seen first (left - 1) (16 * value + d))
  | .pair seen first => if c = '\\' then some (.pairEscape seen first) else none
  | .pairEscape seen first => if c = 'u' then some (.unit seen (some first) 4 0) else none
  | _ => none

/-- The token of a punctuation mark. -/
def mark? (c : Char) : Option Token :=
  match c with
  | '[' => some .openList
  | ']' => some .closeList
  | '\x7b' => some .openObject
  | '\x7d' => some .closeObject
  | ',' => some .comma
  | ':' => some .colon
  | _ => none

/-- Whether a character may stand between tokens. -/
def isGap (c : Char) : Bool := c = ' ' || c = '\n' || c = '\t' || c = '\r'

/-- Whether a character belongs to a word. -/
def isWordChar (c : Char) : Bool := c.isAlphanum || c = '+' || c = '-' || c = '.'

/-- One character between tokens. -/
def stepBetween (tokens : List Token) (c : Char) : Option (LexState × List Token) :=
  if isGap c then some (.between, tokens)
  else if c = '"' then some (.text [], tokens)
  else if isWordChar c then some (.word [c], tokens)
  else (mark? c).map fun t => (.between, t :: tokens)

/-- One character, with the tokens so far, last first. -/
def lexStep (state : LexState) (tokens : List Token) (c : Char) :
    Option (LexState × List Token) :=
  match state with
  | .between => stepBetween tokens c
  | .word seen =>
      if isWordChar c then some (.word (c :: seen), tokens)
      else (word? seen.reverse).bind fun v => stepBetween (.word v :: tokens) c
  | .text seen =>
      if c = '"' then some (.between, .text (String.ofList seen.reverse) :: tokens)
      else (stepText (.text seen) c).map fun s => (s, tokens)
  | state => (stepText state c).map fun s => (s, tokens)

/-- The tokens of the characters that are left, after those already found. -/
def lexFrom (state : LexState) (tokens : List Token) : List Char → Option (List Token)
  | [] =>
      match state with
      | .between => some tokens.reverse
      | .word seen => (word? seen.reverse).map fun v => (Token.word v :: tokens).reverse
      | _ => none
  | c :: cs =>
      match lexStep state tokens c with
      | some (next, tokens) => lexFrom next tokens cs
      | none => none

/-- The tokens of a text. -/
def lex (s : String) : Option (List Token) := lexFrom .between [] s.toList

/-! ## Values -/

/-- A list or object that is not complete yet. -/
inductive Frame where
  /-- A list and its members so far, last first. -/
  | list (items : List Value)
  /-- An object, its fields so far and the name of the field whose value comes next. -/
  | object (fields : List (String × Value)) (name : String)

/-- What may come next. -/
inductive Expect where
  /-- A value. -/
  | value
  /-- A value or the end of an empty list. -/
  | valueOrEnd
  /-- The name of a field. -/
  | name
  /-- The name of a field or the end of an empty object. -/
  | nameOrEnd
  /-- The colon after a name. -/
  | colon (name : String)
  /-- A comma or the end of the list or object. -/
  | next
  /-- Nothing more: the value is complete. -/
  | done (v : Value)

/-- The greatest number of lists and objects open at once. -/
def depthLimit : Nat := 127

/-- What follows a complete value. -/
def place (v : Value) : List Frame → Expect × List Frame
  | [] => (.done v, [])
  | .list items :: frames => (.next, .list (v :: items) :: frames)
  | .object fields name :: frames => (.next, .object (insertPair name v fields) name :: frames)

/-- A frame put on the stack, if the stack is not full. -/
def openFrame (frame : Frame) (expect : Expect) (frames : List Frame) :
    Option (Expect × List Frame) :=
  if frames.length < depthLimit then some (expect, frame :: frames) else none

/-- A token where a value may start. -/
def startValue (token : Token) (frames : List Frame) : Option (Expect × List Frame) :=
  match token with
  | .openList => openFrame (.list []) .valueOrEnd frames
  | .openObject => openFrame (.object [] "") .nameOrEnd frames
  | .text s => some (place (.text s) frames)
  | .word v => some (place v frames)
  | _ => none

/-- One token. -/
def parseStep (expect : Expect) (frames : List Frame) (token : Token) :
    Option (Expect × List Frame) :=
  match expect, token, frames with
  | .valueOrEnd, .closeList, .list _ :: rest => some (place (.list []) rest)
  | .value, token, frames => startValue token frames
  | .valueOrEnd, token, frames => startValue token frames
  | .nameOrEnd, .closeObject, .object _ _ :: rest => some (place (.object []) rest)
  | .nameOrEnd, .text s, frames => some (.colon s, frames)
  | .name, .text s, frames => some (.colon s, frames)
  | .colon s, .colon, .object fields _ :: rest => some (.value, .object fields s :: rest)
  | .next, .comma, .list items :: rest => some (.value, .list items :: rest)
  | .next, .comma, .object fields name :: rest => some (.name, .object fields name :: rest)
  | .next, .closeList, .list items :: rest => some (place (.list items.reverse) rest)
  | .next, .closeObject, .object fields _ :: rest => some (place (.object fields) rest)
  | _, _, _ => none

/-- The value of the tokens that are left. -/
def parseFrom (expect : Expect) (frames : List Frame) : List Token → Option Value
  | [] =>
      match expect with
      | .done v => some v
      | _ => none
  | token :: rest =>
      match parseStep expect frames token with
      | some (expect, frames) => parseFrom expect frames rest
      | none => none

/-- The value that a text holds, if it is well formed. -/
def read? (s : String) : Option Value := (lex s).bind (parseFrom .value [])

section Tests

example : read? "\x7b\"b\": [1, -2], \"a\": \"\\u00e9\"\x7d" =
    some (.object [("a", .text "é"), ("b", .list [.int 1, .int (-2)])]) := by rfl
example : (read? "[1,]").isNone = true := by decide +kernel
example : (read? "01").isNone = true := by decide +kernel
example : (read? "\"\\ud800\"").isNone = true := by decide +kernel

end Tests

end SampleForge.Json
