import SampleForge.Timestamp
import SampleForge.Toml.Value

/-!
# Reading dates and times in TOML

A moment is a date, a time, or both with a `T` or a blank space between them and an optional
offset.  Each part has a fixed number of digits.

Its text is kept in one form: `T` between date and time, the fraction of a second without zeros at
the end and cut to nine digits, and an offset of zero written `Z` or `+00:00`.

A table whose first key is `momentKey` stands for a moment as well, which the text at the key
spells out.  Such a text may also say the hour 24 and any offset of a day at most, with more than 59
minutes.  The other members of the table count for nothing.  `Value.settle?` puts the moments in the
place of these tables and the members of all others in order.
-/

namespace SampleForge.Toml

open SampleForge.Text (decimalValue)

/-- A number of exactly `count` digits in a range, as its digits, and what follows it. -/
def fixed? (count low high : Nat) (cs : List Char) : Option (List Char × List Char) :=
  let digits := cs.take count
  if digits.length = count && digits.all Char.isDigit && low ≤ decimalValue digits &&
      decimalValue digits ≤ high then
    some (digits, cs.drop count)
  else none

/-- A character that must be there, and what follows it. -/
def mark? (mark : Char) : List Char → Option (List Char)
  | c :: cs => if c = mark then some cs else none
  | [] => none

/-- A date as its text, and what follows it. -/
def date? (cs : List Char) : Option (List Char × List Char) := do
  let (year, cs) ← fixed? 4 0 9999 cs
  let (month, cs) ← fixed? 2 1 12 (← mark? '-' cs)
  let (day, cs) ← fixed? 2 1 31 (← mark? '-' cs)
  if decimalValue day ≤ Timestamp.monthLength (decimalValue year) (decimalValue month) then
    return (year ++ '-' :: month ++ '-' :: day, cs)
  else none

/-- Digits without the zeros at their end. -/
def dropZeros (digits : List Char) : List Char :=
  (digits.reverse.dropWhile (· == '0')).reverse

/-- The fraction of a second as its text, if there is one, and what follows it. -/
def secondFraction? : List Char → Option (List Char × List Char)
  | '.' :: cs =>
      let digits := cs.takeWhile Char.isDigit
      let kept := dropZeros (digits.take 9)
      if digits.isEmpty then none
      else some (if kept.isEmpty then [] else '.' :: kept, cs.drop digits.length)
  | cs => some ([], cs)

/-- A time as its text, and what follows it.  The hour is `lastHour` at most. -/
def time? (lastHour : Nat) (cs : List Char) : Option (List Char × List Char) := do
  let (hour, cs) ← fixed? 2 0 lastHour cs
  let (minute, cs) ← fixed? 2 0 59 (← mark? ':' cs)
  let (second, cs) ← fixed? 2 0 60 (← mark? ':' cs)
  let (fraction, cs) ← secondFraction? cs
  return (hour ++ ':' :: minute ++ ':' :: second ++ fraction, cs)

/-- An offset as its text, if there is one, and what follows it. -/
def offset? : List Char → Option (List Char × List Char)
  | [] => some ([], [])
  | c :: cs =>
      if c = 'Z' || c = 'z' then some (['Z'], cs)
      else if c = '+' || c = '-' then do
        let (hour, cs) ← fixed? 2 0 23 cs
        let (minute, cs) ← fixed? 2 0 59 (← mark? ':' cs)
        let zero := decimalValue (hour ++ minute) = 0
        return ((if zero then '+' else c) :: hour ++ ':' :: minute, cs)
      else some ([], c :: cs)

/-- The time after a date as its text, and what follows it. -/
def timeAfterDate? : List Char → Option (List Char × List Char)
  | c :: cs =>
      if c = 'T' || c = 't' || c = ' ' then do
        let (time, cs) ← time? 23 cs
        let (offset, cs) ← offset? cs
        return ('T' :: time ++ offset, cs)
      else none
  | [] => none

/-- A moment, and what follows it. -/
def moment? (cs : List Char) : Option (Value × List Char) :=
  match date? cs with
  | some (date, rest) =>
      match timeAfterDate? rest with
      | some (time, rest) => some (.moment (String.ofList (date ++ time)), rest)
      | none => some (.moment (String.ofList date), rest)
  | none => (time? 23 cs).map fun (time, rest) => (.moment (String.ofList time), rest)

/-! ## Moments that are spelled out -/

/-- The key of a text that spells out a moment. -/
def momentKey : String := "$__toml_private_datetime"

/-- A number of two digits at least. -/
def twoDigits (n : Nat) : List Char := (if n < 10 then ['0'] else []) ++ Nat.toDigits 10 n

/-- An offset of a day at most, as its text, if there is one and nothing follows it. -/
def spelledOffset? : List Char → Option (List Char)
  | [] => some []
  | c :: cs =>
      if (c = 'Z' || c = 'z') && cs.isEmpty then some ['Z']
      else if c = '+' || c = '-' then do
        let (hours, cs) ← fixed? 2 0 99 cs
        let (minutes, cs) ← fixed? 2 0 99 (← mark? ':' cs)
        let total := 60 * decimalValue hours + decimalValue minutes
        if cs.isEmpty && total ≤ 24 * 60 then
          return (if total = 0 then '+' else c) :: twoDigits (total / 60) ++
            ':' :: twoDigits (total % 60)
        else none
      else none

/-- The moment that a text spells out. -/
def spelledMoment? (s : String) : Option Value := do
  let cs := s.toList
  if cs[2]? = some ':' then
    match time? 24 cs with
    | some (time, []) => return .moment (String.ofList time)
    | _ => none
  else
    let (date, cs) ← date? cs
    match cs with
    | [] => return .moment (String.ofList date)
    | c :: cs =>
        if c = 'T' || c = 't' || c = ' ' then
          let (time, cs) ← time? 24 cs
          let offset ← spelledOffset? cs
          return .moment (String.ofList (date ++ 'T' :: time ++ offset))
        else none

/-- The moment that the first member of a table spells out, if the table stands for one. -/
def tableMoment? : List (String × Value) → Option (Option Value)
  | (key, v) :: _ =>
      if key = momentKey then
        some (match v with
          | .text s => spelledMoment? s
          | _ => none)
      else none
  | [] => none

mutual
/-- A value with moments in the place of the tables that stand for them.  There is none if such a
table spells out no moment. -/
def Value.settle? : Value → Option Value
  | .list items => (settleItems? items).map .list
  | .table members => (tableMoment? members).getD ((settleMembers? members).map .table)
  | v => some v
termination_by structural v => v

/-- The items of a list with moments put in. -/
def settleItems? : List Value → Option (List Value)
  | [] => some []
  | v :: rest => do return (← v.settle?) :: (← settleItems? rest)
termination_by structural items => items

/-- The members of a table with moments put in, in ascending order of their keys. -/
def settleMembers? : List (String × Value) → Option (List (String × Value))
  | [] => some []
  | (key, v) :: rest => do return insertPair key (← v.settle?) (← settleMembers? rest)
termination_by structural members => members
end

section Tests

example : moment? "2019-08-01 00:00:00.50+01:00".toList =
    some (.moment "2019-08-01T00:00:00.5+01:00", []) := by rfl
example : moment? "2019-08-01 # day".toList = some (.moment "2019-08-01", " # day".toList) := by
  rfl
example : (moment? "2019-02-29".toList).isNone = true := by decide +kernel
example : moment? "07:30:00".toList = some (.moment "07:30:00", []) := by rfl
example : spelledMoment? "2019-08-01 24:00:00.120+01:75" =
    some (.moment "2019-08-01T24:00:00.12+02:15") := by rfl
example : (spelledMoment? "07:30:00Z").isNone = true := by decide +kernel
example : Value.settle? (.table [("b", .table [(momentKey, .text "07:30:00"), ("x", .int 1)]),
    ("a", .int 1)]) = some (.table [("a", .int 1), ("b", .moment "07:30:00")]) := by rfl

end Tests

end SampleForge.Toml
