import PluginKit.Text.Blank

/-!
# Points in time

A point in time is a count of seconds since 1970 and of nanoseconds. During a leap second the count
of seconds stands still and the nanoseconds go on beyond a thousand million. Its text is that of
RFC 3339 in universal time, with as many digits of a second as are needed, in groups of three.
-/

namespace PluginKit

/-- A point in time. Nanoseconds from a thousand million on lie in a leap second. -/
structure Timestamp where
  seconds : Int
  nanos : Nat
  deriving DecidableEq, Repr

namespace Timestamp

/-! ## The calendar -/

/-- A date of the Gregorian calendar, extended to all years. -/
structure Date where
  year : Int
  month : Nat
  day : Nat
  deriving DecidableEq, Repr

/-- Whether a year has 366 days. -/
def isLeap (year : Int) : Bool := year % 4 == 0 && (year % 100 != 0 || year % 400 == 0)

/-- The number of days of a month. -/
def daysInMonth (year : Int) : Nat → Nat
  | 2 => if isLeap year then 29 else 28
  | 4 | 6 | 9 | 11 => 30
  | _ => 31

/-- Whether the calendar has the date. -/
def Date.isValid (d : Date) : Bool :=
  1 ≤ d.month && d.month ≤ 12 && 1 ≤ d.day && d.day ≤ daysInMonth d.year d.month

/-- The days from 1970-01-01 to a date. Years are counted from March, so that the day added in leap
years comes last. -/
def Date.toDays (d : Date) : Int :=
  let y := if d.month ≤ 2 then d.year - 1 else d.year
  let m : Int := if d.month ≤ 2 then (d.month : Int) + 9 else (d.month : Int) - 3
  365 * y + y / 4 - y / 100 + y / 400 + (153 * m + 2) / 5 + (d.day : Int) - 719469

/-- The date a number of days after 1970-01-01. -/
def Date.ofDays (days : Int) : Date :=
  let z := days + 719468
  let era := z / 146097
  let doe := z % 146097
  let yoe := (doe - doe / 1460 + doe / 36524 - doe / 146096) / 365
  let doy := doe - (365 * yoe + yoe / 4 - yoe / 100)
  let mp := (5 * doy + 2) / 153
  let day := doy - (153 * mp + 2) / 5 + 1
  let month := if mp < 10 then mp + 3 else mp - 9
  let year := yoe + era * 400 + (if month ≤ 2 then 1 else 0)
  { year, month := month.toNat, day := day.toNat }

/-! ## Writing -/

/-- The digits of a number with zeros in front up to a width. -/
def padded (width n : Nat) : String :=
  let ds := Nat.toDigits 10 n
  String.ofList (List.replicate (width - ds.length) '0' ++ ds)

/-- A year has four digits; beyond them, and before the year 0, it has a sign. -/
def yearText (y : Int) : String :=
  if 0 ≤ y ∧ y ≤ 9999 then padded 4 y.toNat
  else (if y < 0 then "-" else "+") ++ padded 4 y.natAbs

/-- The digits of a second, in groups of three and no more groups than needed. -/
def fractionText (nanos : Nat) : String :=
  if nanos = 0 then ""
  else if nanos % 1000000 = 0 then "." ++ padded 3 (nanos / 1000000)
  else if nanos % 1000 = 0 then "." ++ padded 6 (nanos / 1000)
  else "." ++ padded 9 nanos

/-- The text of a point in time. A leap second is the second with the number 60. -/
def text (t : Timestamp) : String :=
  let date := Date.ofDays (t.seconds / 86400)
  let s := (t.seconds % 86400).toNat
  let leap := if t.nanos < 1000000000 then 0 else 1
  yearText date.year ++ "-" ++ padded 2 date.month ++ "-" ++ padded 2 date.day ++ "T" ++
    padded 2 (s / 3600) ++ ":" ++ padded 2 (s / 60 % 60) ++ ":" ++ padded 2 (s % 60 + leap) ++
    fractionText (t.nanos - leap * 1000000000) ++ "Z"

/-! ## Reading -/

/-- Why a text is no point in time. -/
inductive Flaw where
  | outOfRange
  | tooShort
  | tooLong
  | invalid
  deriving DecidableEq, Repr

/-- The wording of a flaw. -/
def Flaw.message : Flaw → String
  | .outOfRange => "input is out of range"
  | .tooShort => "premature end of input"
  | .tooLong => "trailing input"
  | .invalid => "input contains invalid characters"

/-- The value of a decimal digit. -/
def digit? (c : Char) : Except Flaw Nat :=
  if c.isDigit then .ok (c.toNat - '0'.toNat) else .error .invalid

/-- The value of decimal digits. -/
def digits? (cs : List Char) : Except Flaw Nat :=
  cs.foldlM (fun n c => (digit? c).map fun d => 10 * n + d) 0

/-- The separator that has to stand here. -/
def separator (allowed : List Char) (c : Char) : Except Flaw Unit :=
  if c ∈ allowed then .ok () else .error .invalid

/-- Date and time of day, before the digits of a second and the offset. -/
structure Clock where
  date : Date
  hour : Nat
  minute : Nat
  second : Nat

/-- Every character as often as it has octets. -/
def spread (cs : List Char) : List Char := cs.flatMap fun c => List.replicate c.utf8Size c

/-- The first nineteen octets, all of which have to be characters of ASCII. A date that the calendar
does not have is refused before the time of day is looked at. -/
def readClock : List Char → Except Flaw Clock
  | y1 :: y2 :: y3 :: y4 :: s1 :: m1 :: m2 :: s2 :: d1 :: d2 :: t :: h1 :: h2 :: s3 :: n1 :: n2 ::
      s4 :: c1 :: c2 :: _ => do
    let year ← digits? [y1, y2, y3, y4]
    separator ['-'] s1
    let month ← digits? [m1, m2]
    separator ['-'] s2
    let day ← digits? [d1, d2]
    let date : Date := ⟨year, month, day⟩
    if !date.isValid then throw .outOfRange
    separator ['t', 'T', ' '] t
    let hour ← digits? [h1, h2]
    separator [':'] s3
    let minute ← digits? [n1, n2]
    separator [':'] s4
    let second ← digits? [c1, c2]
    return ⟨date, hour, minute, second⟩
  | _ => .error .invalid

/-- The nanoseconds that digits after the point stand for. Digits beyond the ninth do not count. -/
def readFraction : List Char → Except Flaw (Nat × List Char)
  | '.' :: rest =>
    match rest with
    | [] => .error .tooShort
    | _ =>
      let ds := rest.takeWhile Char.isDigit
      if ds.isEmpty then .error .invalid
      else do
        let n ← digits? (ds.take 9)
        return (n * Nat.pow 10 (9 - (ds.take 9).length), rest.dropWhile Char.isDigit)
  | rest => .ok (0, rest)

/-- The number of octets of a text. -/
def octets (cs : List Char) : Nat := (String.ofList cs).utf8ByteSize

/-- Two digits of an offset. -/
def twoDigits (cs : List Char) : Except Flaw (Nat × List Char) :=
  match cs with
  | a :: b :: rest => do
    let n ← digits? [a, b]
    return (n, rest)
  | cs => if octets cs < 2 then .error .tooShort else .error .invalid

/-- The offset from universal time in seconds. -/
def readOffset : List Char → Except Flaw (Int × List Char)
  | [] => .error .tooShort
  | c :: rest =>
    if c = 'Z' ∨ c = 'z' then .ok (0, rest)
    else do
      let sign : Int ← if c = '+' then pure 1 else if c = '-' ∨ c = '\u2212' then pure (-1)
        else throw .invalid
      let (hours, rest) ← twoDigits rest
      let rest ← match rest with
        | [] => throw .tooShort
        | ':' :: rest => pure rest
        | _ => throw .invalid
      let (minutes, rest) ← twoDigits rest
      if 60 ≤ minutes then throw .outOfRange
      return (sign * (hours * 3600 + minutes * 60 : Nat), rest)

/-- The largest offset of RFC 3339, in seconds. -/
def maxOffset : Nat := (23 * 60 + 59) * 60

/-- Reads a point in time. The second 60 stands for a leap second, at any minute. -/
def parse (s : String) : Except Flaw Timestamp := do
  if octets s.toList < 19 then throw .tooShort
  let clock ← readClock (spread s.toList)
  let (nanos, rest) ← readFraction (s.toList.drop 19)
  let leap := clock.second = 60
  let second := if leap then 59 else clock.second
  if 24 ≤ clock.hour ∨ 60 ≤ clock.minute ∨ 60 ≤ second then throw .outOfRange
  let (offset, rest) ← readOffset rest
  if maxOffset < offset.natAbs then throw .outOfRange
  if !rest.isEmpty then throw .tooLong
  return {
    seconds := clock.date.toDays * 86400 +
      (clock.hour * 3600 + clock.minute * 60 + second : Nat) - offset
    nanos := nanos + if leap then 1000000000 else 0 }

end Timestamp

end PluginKit
