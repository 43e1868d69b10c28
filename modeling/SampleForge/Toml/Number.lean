import SampleForge.Text.Digits
import SampleForge.Toml.Value

/-!
# Reading numbers in TOML

A whole number is decimal with an optional sign and no leading zero, or unsigned with one of the
marks `0x`, `0o` and `0b` before its digits.  It must fit in 64 bits with a sign.

A floating number is a decimal whole number with a fraction, an exponent or both, or one of the
words `inf` and `nan`, which may have a sign.  A number too large is refused if it is positive.

Between two digits there may be one underscore.
-/

namespace SampleForge.Toml

open SampleForge.Text (decimalValue fitting? hexValue?)

/-- The digits after a first one, without underscores, and what follows them.  An underscore must
be followed by a digit. -/
def moreDigits? (isDigit : Char → Bool) : List Char → Option (List Char × List Char)
  | [] => some ([], [])
  | ['_'] => none
  | '_' :: c :: cs =>
      if isDigit c then (moreDigits? isDigit cs).map fun r => (c :: r.1, r.2) else none
  | c :: cs =>
      if isDigit c then (moreDigits? isDigit cs).map fun r => (c :: r.1, r.2)
      else some ([], c :: cs)

/-- Digits without underscores, and what follows them. -/
def digits? (isDigit : Char → Bool) : List Char → Option (List Char × List Char)
  | [] => none
  | c :: cs =>
      if isDigit c then (moreDigits? isDigit cs).map fun r => (c :: r.1, r.2) else none

/-- A sign, if there is one, and what follows it. -/
def sign : List Char → Bool × List Char
  | '+' :: cs => (false, cs)
  | '-' :: cs => (true, cs)
  | cs => (false, cs)

/-- Decimal digits with no leading zero, and what follows them. -/
def decimal? : List Char → Option (List Char × List Char)
  | '0' :: cs => some (['0'], cs)
  | cs => digits? Char.isDigit cs

/-- The value of digits in a base of at most sixteen. -/
def valueIn (base : Nat) (digits : List Char) : Nat :=
  digits.foldl (fun n c => base * n + (hexValue? c).getD 0) 0

/-- Whether a character is a digit of a base of at most sixteen. -/
def isDigitIn (base : Nat) (c : Char) : Bool :=
  match hexValue? c with
  | some d => d < base
  | none => false

/-- An unsigned number in a base, and what follows it. -/
def based? (base : Nat) (cs : List Char) : Option (Value × List Char) := do
  let (digits, rest) ← digits? (isDigitIn base) cs
  return (.int (← fitting? false (valueIn base digits)), rest)

/-- A whole number, and what follows it. -/
def int? : List Char → Option (Value × List Char)
  | '0' :: 'x' :: cs => based? 16 cs
  | '0' :: 'o' :: cs => based? 8 cs
  | '0' :: 'b' :: cs => based? 2 cs
  | cs => do
      let (negative, cs) := sign cs
      let (digits, rest) ← decimal? cs
      return (.int (← fitting? negative (decimalValue digits)), rest)

/-- A fraction, and what follows it. -/
def fraction? : List Char → Option (List Char × List Char)
  | '.' :: cs => digits? Char.isDigit cs
  | _ => none

/-- An exponent, and what follows it. -/
def exponent? : List Char → Option (Int × List Char)
  | e :: cs =>
      if e = 'e' || e = 'E' then do
        let (negative, cs) := sign cs
        let (digits, rest) ← digits? Char.isDigit cs
        let n : Int := decimalValue digits
        return (if negative then -n else n, rest)
      else none
  | [] => none

/-- The number of a sign, digits before and after the point, and an exponent. -/
def realOf (negative : Bool) (whole fraction : List Char) (exponent : Int) : Binary64 :=
  Binary64.signed negative
    (Binary64.nearestDecimal (decimalValue (whole ++ fraction)) (exponent - fraction.length))

/-- A floating number in digits, and what follows it. -/
def digitReal? (cs : List Char) : Option (Value × List Char) := do
  let (negative, cs) := sign cs
  let (whole, rest) ← decimal? cs
  let (fraction, exponent, rest) ←
    match fraction? rest with
    | some (fraction, rest) =>
        match exponent? rest with
        | some (exponent, rest) => pure (fraction, exponent, rest)
        | none => pure (fraction, 0, rest)
    | none => do
        let (exponent, rest) ← exponent? rest
        pure ([], exponent, rest)
  let x := realOf negative whole fraction exponent
  if x = Binary64.infinity then none else return (.real x, rest)

/-- A floating number in letters, and what follows it. -/
def wordReal? (cs : List Char) : Option (Value × List Char) :=
  let (negative, cs) := sign cs
  match cs with
  | 'i' :: 'n' :: 'f' :: rest => some (.real (Binary64.signed negative Binary64.infinityBits), rest)
  | 'n' :: 'a' :: 'n' :: rest => some (.real Binary64.notANumber, rest)
  | _ => none

/-- A number, and what follows it. -/
def number? (cs : List Char) : Option (Value × List Char) :=
  (digitReal? cs).or ((wordReal? cs).or (int? cs))

section Tests

example : number? "1_000,".toList = some (.int 1000, [',']) := by rfl
example : number? "0xfF".toList = some (.int 255, []) := by rfl
example : (number? "1__0".toList).isNone = true := by decide +kernel
example : number? "-9223372036854775808".toList = some (.int (-9223372036854775808), []) := by
  rfl
example : (number? "9223372036854775808".toList).isNone = true := by decide +kernel
example : (digitReal? "1e400".toList).isNone = true := by decide +kernel

end Tests

end SampleForge.Toml
