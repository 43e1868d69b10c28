import SampleForge.Text.Blank
import SampleForge.Text.Case
import SampleForge.Text.Digits

/-!
# Timestamps

A moment in universal time, to the nanosecond.  It is written in the internet date and time format
and read in a lenient form of it:

* blanks may stand before each number and before the marks of the date and the time;
* a year may have a sign and then any number of digits;
* date and time are kept apart by a `T` or a blank space;
* the offset is `Z`, `UTC`, or a sign and two digits each for hours and minutes, with any colons
  and blanks between them.

Second 60 is a leap second.  It is kept as the second before with more than a whole second of
nanoseconds, and written as 60 again.
-/

namespace SampleForge

open Text (decimalValue digitValue isBlank lowerAscii padded signedLimit trimLeft)

/-- A moment. -/
structure Timestamp where
  /-- The seconds since the start of 1970. -/
  seconds : Int
  /-- The nanoseconds since then, two thousand million at most. -/
  nanos : Nat := 0
  deriving DecidableEq, Repr

/-- A reason to refuse the text of a moment. -/
inductive TimestampFault where
  /-- A part is out of its range, or the parts make no date. -/
  | outOfRange
  /-- A character is not what stands at its place. -/
  | invalid
  /-- The text ends too early. -/
  | tooShort
  /-- The text goes on after its end. -/
  | tooLong
  /-- The moment is too far away. -/
  | impossible
  deriving DecidableEq, Repr

/-- The wording of a reason. -/
def TimestampFault.message : TimestampFault → String
  | .outOfRange => "input is out of range"
  | .invalid => "input contains invalid characters"
  | .tooShort => "premature end of input"
  | .tooLong => "trailing input"
  | .impossible => "no possible date and time matching input"

namespace Timestamp

/-! ## The calendar -/

/-- A day of the calendar. -/
structure Date where
  year : Int
  month : Nat
  day : Nat
  deriving DecidableEq, Repr

/-- Whether a year has a leap day. -/
def isLeap (year : Int) : Bool := (year % 4 = 0 ∧ year % 100 ≠ 0) ∨ year % 400 = 0

/-- The number of days of a month. -/
def monthLength (year : Int) (month : Nat) : Nat :=
  if month = 2 then if isLeap year then 29 else 28
  else if month = 4 ∨ month = 6 ∨ month = 9 ∨ month = 11 then 30
  else 31

/-- The days from the start of 1970 to a date.  Years are counted from March, so that a leap day is
the last of its year. -/
def Date.toDays (d : Date) : Int :=
  let y := if d.month ≤ 2 then d.year - 1 else d.year
  let era := y / 400
  let yearOfEra := y % 400
  let monthFromMarch : Int := (d.month + 9) % 12
  let dayOfYear := (153 * monthFromMarch + 2) / 5 + d.day - 1
  era * 146097 + (yearOfEra * 365 + yearOfEra / 4 - yearOfEra / 100 + dayOfYear) - 719468

/-- The date that lies a number of days after the start of 1970. -/
def Date.ofDays (days : Int) : Date :=
  let z := days + 719468
  let era := z / 146097
  let dayOfEra := z % 146097
  let yearOfEra :=
    (dayOfEra - dayOfEra / 1460 + dayOfEra / 36524 - dayOfEra / 146096) / 365
  let dayOfYear := dayOfEra - (365 * yearOfEra + yearOfEra / 4 - yearOfEra / 100)
  let monthFromMarch := (5 * dayOfYear + 2) / 153
  let day := (dayOfYear - (153 * monthFromMarch + 2) / 5 + 1).toNat
  let month := if monthFromMarch < 10 then monthFromMarch.toNat + 3 else monthFromMarch.toNat - 9
  ⟨yearOfEra + era * 400 + (if month ≤ 2 then 1 else 0), month, day⟩

/-- The first day that the calendar reaches. -/
def firstDay : Int := (Date.mk (-262143) 1 1).toDays

/-- The last day that the calendar reaches. -/
def lastDay : Int := (Date.mk 262142 12 31).toDays

/-! ## Writing -/

/-- A year with four digits, or with a sign and at least four. -/
def yearText (year : Int) : List Char :=
  if 0 ≤ year ∧ year ≤ 9999 then padded 10 4 year.toNat
  else
    let digits := Nat.toDigits 10 year.natAbs
    (if year < 0 then '-' else '+') :: (List.replicate (4 - digits.length) '0' ++ digits)

/-- The fraction of a second, with as many groups of three digits as it needs. -/
def fractionText (nanos : Nat) : List Char :=
  if nanos = 0 then []
  else if nanos % 1000000 = 0 then '.' :: padded 10 3 (nanos / 1000000)
  else if nanos % 1000 = 0 then '.' :: padded 10 6 (nanos / 1000)
  else '.' :: padded 10 9 nanos

/-- A moment without its offset. -/
def localText (t : Timestamp) : String :=
  let date := Date.ofDays (t.seconds / 86400)
  let second := (t.seconds % 86400).toNat
  let leap := 1000000000 ≤ t.nanos
  String.ofList <|
    yearText date.year ++ '-' :: padded 10 2 date.month ++ '-' :: padded 10 2 date.day ++
      'T' :: padded 10 2 (second / 3600) ++ ':' :: padded 10 2 (second / 60 % 60) ++
      ':' :: padded 10 2 (second % 60 + if leap then 1 else 0) ++
      fractionText (if leap then t.nanos - 1000000000 else t.nanos)

/-- A moment with a zero offset in digits. -/
def text (t : Timestamp) : String := t.localText ++ "+00:00"

/-- A moment with a zero offset as a letter. -/
def shortText (t : Timestamp) : String := t.localText ++ "Z"

/-! ## Reading -/

/-- A number of `least` to `most` digits, and what follows it. -/
def readDigits (most : Nat) (cs : List Char) : Except TimestampFault (Nat × List Char) :=
  match cs with
  | [] => .error .tooShort
  | c :: _ =>
      if c.isDigit then
        let digits := (cs.take most).takeWhile Char.isDigit
        if decimalValue digits < signedLimit then .ok (decimalValue digits, cs.drop digits.length)
        else .error .outOfRange
      else .error .invalid

/-- A number with at most two digits in a range, blanks before it. -/
def readPart (low high : Nat) (cs : List Char) : Except TimestampFault (Nat × List Char) := do
  let (n, rest) ← readDigits 2 (trimLeft cs)
  if low ≤ n ∧ n ≤ high then .ok (n, rest) else .error .outOfRange

/-- A mark, blanks before it. -/
def readMark (mark : Char) (cs : List Char) : Except TimestampFault (List Char) :=
  match trimLeft cs with
  | [] => .error .tooShort
  | c :: rest => if c = mark then .ok rest else .error .invalid

/-- A year. -/
def readYear (cs : List Char) : Except TimestampFault (Int × List Char) := do
  let (year, rest) ←
    match trimLeft cs with
    | '-' :: rest => do
        let (n, rest) ← readDigits rest.length rest
        pure (-(n : Int), rest)
    | '+' :: rest => do
        let (n, rest) ← readDigits rest.length rest
        pure ((n : Int), rest)
    | rest => do
        let (n, rest) ← readDigits 4 rest
        pure ((n : Int), rest)
  if -0x80000000 ≤ year ∧ year < 0x80000000 then .ok (year, rest) else .error .outOfRange

/-- The fraction of a second in nanoseconds, if there is one.  Digits after the ninth are
dropped. -/
def readFraction : List Char → Except TimestampFault (Nat × List Char)
  | '.' :: cs => do
      let (n, rest) ← readDigits 9 cs
      let count := cs.length - rest.length
      return (n * Nat.pow 10 (9 - count), rest.dropWhile Char.isDigit)
  | cs => return (0, cs)

/-- The bytes that some characters take. -/
def byteLength (cs : List Char) : Nat := (String.ofList cs).utf8ByteSize

/-- Two digits. -/
def readPair : List Char → Except TimestampFault (Nat × List Char)
  | a :: b :: rest =>
      if a.isDigit && b.isDigit then .ok (10 * digitValue a + digitValue b, rest)
      else .error .invalid
  | cs => .error (if byteLength cs < 2 then .tooShort else .invalid)

/-- The minutes of an offset. -/
def readOffsetMinutes (cs : List Char) : Except TimestampFault (Nat × List Char) := do
  let (minutes, rest) ← readPair cs
  if minutes < 60 then .ok (minutes, rest) else .error .outOfRange

/-- The hours and minutes of an offset, in seconds. -/
def readOffsetDigits (cs : List Char) : Except TimestampFault (Nat × List Char) := do
  let (hours, rest) ← readPair cs
  let (minutes, rest) ← readOffsetMinutes (rest.dropWhile fun c => c = ':' || isBlank c)
  return (hours * 3600 + minutes * 60, rest)

/-- An offset in seconds. -/
def readOffset (cs : List Char) : Except TimestampFault (Int × List Char) :=
  if lowerAscii (String.ofList (cs.take 3)) = "utc" then .ok (0, cs.drop 3)
  else
    match cs with
    | [] => .error .tooShort
    | c :: rest =>
        if c = 'Z' ∨ c = 'z' then .ok (0, rest)
        else if c = '+' then (readOffsetDigits rest).map fun (n, rest) => ((n : Int), rest)
        else if c = '-' ∨ c = '−' then
          (readOffsetDigits rest).map fun (n, rest) => (-(n : Int), rest)
        else .error .invalid

/-- A date. -/
def readDate (cs : List Char) : Except TimestampFault (Date × List Char) := do
  let (year, cs) ← readYear cs
  let cs ← readMark '-' cs
  let (month, cs) ← readPart 1 12 cs
  let cs ← readMark '-' cs
  let (day, cs) ← readPart 1 31 cs
  return (⟨year, month, day⟩, cs)

/-- What stands between date and time. -/
def readSeparator : List Char → Except TimestampFault (List Char)
  | [] => .error .tooShort
  | c :: rest => if c = 'T' ∨ c = 't' ∨ c = ' ' then .ok rest else .error .invalid

/-- The moment at a date, a second of the day and an offset. -/
def atOffset (date : Date) (second nanos : Nat) (offset : Int) :
    Except TimestampFault Timestamp :=
  let days := date.toDays
  let seconds := days * 86400 + second - offset
  if monthLength date.year date.month < date.day ∨ days < firstDay ∨ lastDay < days then
    .error .outOfRange
  else if 86400 ≤ offset.natAbs then .error .outOfRange
  else if seconds / 86400 < firstDay ∨ lastDay < seconds / 86400 then .error .impossible
  else .ok ⟨seconds, nanos⟩

/-- The moment that a text tells. -/
def parse (s : String) : Except TimestampFault Timestamp := do
  let (date, cs) ← readDate s.toList
  let cs ← readSeparator cs
  let (hour, cs) ← readPart 0 23 cs
  let cs ← readMark ':' cs
  let (minute, cs) ← readPart 0 59 cs
  let cs ← readMark ':' cs
  let (second, cs) ← readPart 0 60 cs
  let (nanos, cs) ← readFraction cs
  let (offset, cs) ← readOffset (trimLeft cs)
  if trimLeft cs ≠ [] then .error .tooLong
  else
    let leap := second = 60
    atOffset date (hour * 3600 + minute * 60 + if leap then 59 else second)
      (nanos + if leap then 1000000000 else 0) offset

section Tests

example : (parse "2019-08-01T02:30:00+02:30").toOption.map text =
    some "2019-08-01T00:00:00+00:00" := by decide +kernel
example : (parse "2016-12-31T23:59:60.5Z").toOption.map shortText =
    some "2016-12-31T23:59:60.500Z" := by decide +kernel
example : (parse "2019-02-29T00:00:00Z").toOption = none := by decide +kernel
example : (parse "-0001-12-31T23:00:00-02:00").toOption.map text =
    some "0000-01-01T01:00:00+00:00" := by decide +kernel

end Tests

end Timestamp

end SampleForge
