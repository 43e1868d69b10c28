/-!
# Digits

Numbers written with the digits of a base, in both directions.  Only the ASCII digits count as
digits.  `padded` writes a number with a fixed count of digits, leading zeros included.

Readers that keep whole numbers in 64 bits share the limits `signedLimit` and `unsignedLimit`.
-/

namespace SampleForge.Text

/-- The value of a decimal digit. -/
def digitValue (c : Char) : Nat := c.toNat - 48

/-- The value of a list of decimal digits. -/
def decimalValue (cs : List Char) : Nat := cs.foldl (fun n c => 10 * n + digitValue c) 0

/-- The least number that does not fit in 64 bits with a sign. -/
def signedLimit : Nat := 0x8000000000000000

/-- The least number that does not fit in 64 bits without a sign. -/
def unsignedLimit : Nat := 0x10000000000000000

/-- The whole number with a sign and a magnitude, if it fits in 64 bits. -/
def fitting? (negative : Bool) (magnitude : Nat) : Option Int :=
  if negative then if magnitude ≤ signedLimit then some (-(magnitude : Int)) else none
  else if magnitude < signedLimit then some magnitude
  else none

/-- The value of a hexadecimal digit, in either case. -/
def hexValue? (c : Char) : Option Nat :=
  if '0' ≤ c ∧ c ≤ '9' then some (c.toNat - 48)
  else if 'a' ≤ c ∧ c ≤ 'f' then some (c.toNat - 87)
  else if 'A' ≤ c ∧ c ≤ 'F' then some (c.toNat - 55)
  else none

/-- The digit of a number below sixteen, in small letters. -/
def digitChar (n : Nat) : Char := Nat.digitChar (n % 16)

/-- A number with its last `width` digits in a base. -/
def padded (base : Nat) : Nat → Nat → List Char
  | 0, _ => []
  | width + 1, n => padded base width (n / base) ++ [digitChar (n % base)]

/-- A number in hexadecimal with no leading zero. -/
def hexChars (n : Nat) : List Char := Nat.toDigits 16 n

/-- Bytes in hexadecimal, two digits to a byte. -/
def hexBytes (bytes : List UInt8) : String :=
  String.ofList (bytes.flatMap fun b => padded 16 2 b.toNat)

section Tests

example : padded 16 4 0xAB = ['0', '0', 'a', 'b'] := by decide
example : padded 10 2 7 = ['0', '7'] := by decide
example : decimalValue ['0', '4', '2'] = 42 := by decide
example : fitting? true 0x8000000000000000 = some (-0x8000000000000000) := by decide
example : fitting? false 0x8000000000000000 = none := by decide

end Tests

end SampleForge.Text
