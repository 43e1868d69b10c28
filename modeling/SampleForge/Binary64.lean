/-!
# Binary floating point numbers

A number in the 64-bit binary interchange format, held as its bit pattern, with exact decimal
conversion in both directions.

* `nearest` rounds a quotient of natural numbers to the nearest magnitude, ties to the even one.
  Everything that reads or combines numbers goes through it, so each operation rounds once.
* `shortest` gives the decimal digits to print: the fewest that read back as the same number, and
  of those the nearest to it.
* Two texts are made of the digits: one that never uses an exponent (`positional`), and one that
  uses an exponent for very large and very small numbers (`scientific`).
-/

namespace SampleForge

/-- A floating point number, as its bits. -/
structure Binary64 where
  /-- The sign bit, eleven bits of exponent and fifty-two of fraction, as one number. -/
  bits : Nat
  deriving DecidableEq, Repr

namespace Binary64

/-! ## Parts -/

/-- The weight of the sign bit. -/
def signBit : Nat := 0x8000000000000000

/-- The bits of positive infinity. -/
def infinityBits : Nat := 0x7FF <<< 52

/-- Positive infinity. -/
def infinity : Binary64 := ⟨infinityBits⟩

/-- The number that is not one. -/
def notANumber : Binary64 := ⟨infinityBits + 1 <<< 51⟩

/-- Whether the sign bit is set. -/
def isNegative (x : Binary64) : Bool := signBit ≤ x.bits

/-- The bits without the sign. -/
def magnitudeBits (x : Binary64) : Nat := x.bits % signBit

/-- Whether the number is finite. -/
def isFinite (x : Binary64) : Bool := x.magnitudeBits < infinityBits

/-- Whether the number is not one. -/
def isNaN (x : Binary64) : Bool := infinityBits < x.magnitudeBits

/-- Whether the number is zero, of either sign. -/
def isZero (x : Binary64) : Bool := x.magnitudeBits == 0

/-- The number with its sign bit set when asked. -/
def signed (negative : Bool) (magnitude : Nat) : Binary64 :=
  ⟨if negative then signBit + magnitude else magnitude⟩

/-- The weight of the bit that stands in front of the fraction and is not written. -/
def hiddenBit : Nat := 0x10000000000000

/-- The magnitude of a finite number as a fraction of two natural numbers. -/
def fraction (x : Binary64) : Nat × Nat :=
  let e := x.magnitudeBits / hiddenBit
  let f := x.magnitudeBits % hiddenBit
  if e = 0 then (f, 1 <<< 1074)
  else if 1075 ≤ e then ((hiddenBit + f) <<< (e - 1075), 1)
  else (hiddenBit + f, 1 <<< (1075 - e))

/-! ## Rounding -/

/-- A quotient rounded to a whole number, ties to the even one. -/
def roundQuotient (num den : Nat) : Nat :=
  let q := num / den
  let r := 2 * (num % den)
  if r < den then q else if den < r then q + 1 else q + q % 2

/-- The exponent `e` for which a positive quotient lies between `2 ^ e` and `2 ^ (e + 1)`. -/
def binaryExponent (num den : Nat) : Int :=
  let guess : Int := (Nat.log2 num : Int) - Nat.log2 den
  let below : Bool :=
    if 0 ≤ guess then num < den <<< guess.toNat else num <<< (-guess).toNat < den
  if below then guess - 1 else guess

/-- The magnitude bits of the number nearest to a quotient, ties to the even one. -/
def nearest (num den : Nat) : Nat :=
  if num = 0 then 0
  else
    let unit : Int := max (binaryExponent num den - 52) (-1074)
    let m :=
      if 0 ≤ unit then roundQuotient num (den <<< unit.toNat)
      else roundQuotient (num <<< (-unit).toNat) den
    min ((unit + 1074).toNat * hiddenBit + m) infinityBits

/-- Ten to a power that is not negative. -/
def tenTo (power : Int) : Nat := Nat.pow 10 power.toNat

/-- The magnitude bits of the number nearest to `digits * 10 ^ exponent`. -/
def nearestDecimal (digits : Nat) (exponent : Int) : Nat :=
  if digits = 0 then 0
  else if 400 < exponent then infinityBits
  else if exponent + (Nat.log2 digits / 3 : Nat) + 1 < -400 then 0
  else if 0 ≤ exponent then nearest (digits * tenTo exponent) 1
  else nearest digits (tenTo (-exponent))

/-- The magnitude bits of the rounded product of two finite magnitudes. -/
def product (a b : Nat) : Nat :=
  let x := fraction ⟨a⟩
  let y := fraction ⟨b⟩
  nearest (x.1 * y.1) (x.2 * y.2)

/-- The magnitude bits of the rounded quotient of two finite magnitudes. -/
def quotient (a b : Nat) : Nat :=
  let x := fraction ⟨a⟩
  let y := fraction ⟨b⟩
  nearest (x.1 * y.2) (x.2 * y.1)

/-! ## Shortest digits -/

/-- The exponent `e` for which a positive quotient lies between `10 ^ e` and `10 ^ (e + 1)`. -/
def decimalExponent (num den : Nat) : Int :=
  let digitsOf (n : Nat) : Int := (Nat.toDigits 10 n).length
  let guess := digitsOf num - digitsOf den
  let below : Bool :=
    if 0 ≤ guess then num < den * tenTo guess else num * tenTo (-guess) < den
  if below then guess - 1 else guess

/-- A value of the decimal grid with one unit at `10 ^ place` that reads back as the magnitude: of
the two neighbours of the magnitude on that grid, the nearer that does. -/
def onGrid? (magnitude num den : Nat) (place : Int) : Option Nat :=
  let up : Nat := if 0 ≤ place then 1 else tenTo (-place)
  let down : Nat := if 0 ≤ place then tenTo place else 1
  let low := num * up / (den * down)
  let near := roundQuotient (num * up) (den * down)
  let far := if near = low then low + 1 else low
  if nearestDecimal near place = magnitude then some near
  else if nearestDecimal far place = magnitude then some far
  else none

/-- The first grid with at most `count` more digits on which the magnitude reads back. -/
def searchGrid (magnitude num den : Nat) (place : Int) : Nat → Nat × Int
  | 0 => (num / den, 0)
  | count + 1 =>
      match onGrid? magnitude num den place with
      | some digits => (digits, place)
      | none => searchGrid magnitude num den (place - 1) count

/-- The fewest decimal digits that read back as a finite number that is not zero, and the power of
ten of the last.  A number just below a power of ten may be found as ten units of the first grid,
which are one digit. -/
def shortest (x : Binary64) : Nat × Int :=
  let f := x.fraction
  match searchGrid x.magnitudeBits f.1 f.2 (decimalExponent f.1 f.2) 17 with
  | (10, place) => (1, place + 1)
  | found => found

/-! ## Texts -/

/-- Digits with the decimal point `scale` digits before the end, zeros filled in. -/
def placePoint (digits : List Char) (exponent : Int) : List Char × List Char :=
  if 0 ≤ exponent then (digits ++ List.replicate exponent.toNat '0', [])
  else
    let places := (-exponent).toNat
    if places < digits.length then digits.splitAt (digits.length - places)
    else (['0'], List.replicate (places - digits.length) '0' ++ digits)

/-- The text of a number without an exponent.  A whole number has no point. -/
def positional (x : Binary64) : String :=
  let sign := if x.isNegative then "-" else ""
  if x.isNaN then "NaN"
  else if !x.isFinite then sign ++ "inf"
  else if x.isZero then sign ++ "0"
  else
    let s := x.shortest
    let parts := placePoint (Nat.toDigits 10 s.1) s.2
    sign ++ String.ofList (parts.1 ++ if parts.2.isEmpty then [] else '.' :: parts.2)

/-- The text of a finite number.  It has a point or an exponent, and an exponent from `10 ^ 16` up
and below `10 ^ -5`. -/
def scientific (x : Binary64) : String :=
  let sign := if x.isNegative then "-" else ""
  if x.isZero then sign ++ "0.0"
  else
    let s := x.shortest
    let digits := Nat.toDigits 10 s.1
    let leading : Int := s.2 + digits.length - 1
    if -5 ≤ leading ∧ leading < 16 then
      let parts := placePoint digits s.2
      sign ++ String.ofList (parts.1 ++ '.' :: if parts.2.isEmpty then ['0'] else parts.2)
    else
      let mantissa := digits.take 1 ++ if digits.length ≤ 1 then [] else '.' :: digits.drop 1
      let power := leading.natAbs
      sign ++ String.ofList mantissa ++ "e" ++ (if leading < 0 then "-" else "+") ++ Nat.repr power

section Tests

example : nearestDecimal 15 (-1) = 0x3FF8000000000000 := by decide +kernel
example : nearestDecimal 1 400 = infinityBits := by decide +kernel
example : (signed true (nearestDecimal 1 (-1))).positional = "-0.1" := by decide +kernel
example : Binary64.positional ⟨nearestDecimal 1 (-7)⟩ = "0.0000001" := by decide +kernel
example : Binary64.scientific ⟨nearestDecimal 1 300⟩ = "1e+300" := by decide +kernel
example : Binary64.scientific ⟨1⟩ = "5e-324" := by decide +kernel
example : Binary64.scientific ⟨nearestDecimal 15 (-7)⟩ = "1.5e-6" := by decide +kernel
example : Binary64.scientific ⟨nearestDecimal 2 0⟩ = "2.0" := by decide +kernel

end Tests

end Binary64

end SampleForge
