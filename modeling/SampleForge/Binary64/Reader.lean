import SampleForge.Binary64
import SampleForge.Text.Case
import SampleForge.Text.Digits

/-!
# Reading floating numbers

A floating number in a text of its own: digits with or without a point and an exponent, or one of
the words `inf`, `infinity` and `nan` in any case.  A sign may stand in front.  A point needs a
digit on one side only.  What is too large is infinite.
-/

namespace SampleForge.Binary64

open Text (decimalValue)

/-- A sign, if there is one, and what follows it. -/
def signOf : List Char → Bool × List Char
  | '+' :: cs => (false, cs)
  | '-' :: cs => (true, cs)
  | cs => (false, cs)

/-- The power of ten that an exponent tells.  There is none at the end of a text. -/
def powerOf? : List Char → Option Int
  | [] => some 0
  | e :: cs =>
      let (negative, digits) := signOf cs
      if (e = 'e' || e = 'E') && !digits.isEmpty && digits.all Char.isDigit then
        let n : Int := decimalValue digits
        some (if negative then -n else n)
      else none

/-- The digits after a point, and what follows them. -/
def afterPoint : List Char → List Char × List Char
  | '.' :: cs => cs.span Char.isDigit
  | cs => ([], cs)

/-- The magnitude of an unsigned number. -/
def magnitude? (cs : List Char) : Option Nat :=
  let word := Text.lowerAscii (String.ofList cs)
  if word = "inf" || word = "infinity" then some infinityBits
  else if word = "nan" then some notANumber.bits
  else
    let (whole, rest) := cs.span Char.isDigit
    let (fraction, rest) := afterPoint rest
    let digits := whole ++ fraction
    if digits.isEmpty then none
    else
      (powerOf? rest).map fun power =>
        nearestDecimal (decimalValue digits) (power - fraction.length)

/-- The number that a text tells. -/
def read? (s : String) : Option Binary64 :=
  let (negative, cs) := signOf s.toList
  (magnitude? cs).map (signed negative)

section Tests

example : (read? "1.5e1").map positional = some "15" := by decide +kernel
example : (read? "-.5").map positional = some "-0.5" := by decide +kernel
example : (read? "Infinity").map positional = some "inf" := by decide +kernel
example : read? "." = none ∧ read? "1e" = none ∧ read? "" = none := by decide +kernel

end Tests

end SampleForge.Binary64
