/-! # Dates and moments

A date is a day of the calendar; a moment is a date with a time of day and, possibly, its distance
from universal time in minutes.

* `Date.isValid`, `Moment.isValid`: the day exists and the time is one of a day.
* `Date.text`, `Moment.text`: `2024-01-15` and `2024-01-15 10:30:00+01:00`.
* `Moment.instant?`: two moments with a known distance from universal time are compared by it. -/

namespace SubmissionRouting

/-- A day of the calendar. -/
structure Date where
  year : Nat
  month : Nat
  day : Nat
deriving DecidableEq

/-- A time of a day. -/
structure Moment where
  date : Date
  hour : Nat
  minute : Nat
  second : Nat
  microsecond : Nat
  /-- The distance from universal time in minutes, if it is known. -/
  offset : Option Int
deriving DecidableEq

/-- A number in decimal with zeros in front, up to the given count of digits. -/
def paddedDecimal (count n : Nat) : String :=
  let digits := Nat.toDigits 10 n
  String.ofList (List.replicate (count - digits.length) '0' ++ digits)

namespace Date

/-- A year of 366 days. -/
def isLeapYear (year : Nat) : Bool := year % 4 = 0 && (year % 100 ≠ 0 || year % 400 = 0)

/-- The number of days in a month. -/
def daysInMonth (year month : Nat) : Nat :=
  if month = 2 then (if isLeapYear year then 29 else 28)
  else if month = 4 ∨ month = 6 ∨ month = 9 ∨ month = 11 then 30
  else 31

/-- The day exists, in the years 1 to 9999. -/
def isValid (d : Date) : Bool :=
  1 ≤ d.year && d.year ≤ 9999 && 1 ≤ d.month && d.month ≤ 12 && 1 ≤ d.day &&
    d.day ≤ daysInMonth d.year d.month

/-- Year, month and day. -/
def text (d : Date) : String :=
  paddedDecimal 4 d.year ++ "-" ++ paddedDecimal 2 d.month ++ "-" ++ paddedDecimal 2 d.day

/-- The number of days before this one, counted from the first year. -/
def ordinal (d : Date) : Nat :=
  let y := d.year - 1
  365 * y + y / 4 - y / 100 + y / 400 +
    (List.range (d.month - 1)).foldl (fun days m => days + daysInMonth d.year (m + 1)) 0 + d.day

end Date

namespace Moment

/-- The day exists and the time is one of a day; the distance is less than a day. -/
def isValid (m : Moment) : Bool :=
  m.date.isValid && m.hour < 24 && m.minute < 60 && m.second < 60 &&
    (match m.offset with
      | none => true
      | some o => o.natAbs < 24 * 60)

/-- The distance from universal time, as hours and minutes with a sign. -/
def offsetText (o : Int) : String :=
  (if o < 0 then "-" else "+") ++ paddedDecimal 2 (o.natAbs / 60) ++ ":" ++
    paddedDecimal 2 (o.natAbs % 60)

/-- Date, time of day, and distance from universal time. -/
def text (m : Moment) : String :=
  m.date.text ++ " " ++ paddedDecimal 2 m.hour ++ ":" ++ paddedDecimal 2 m.minute ++ ":" ++
    paddedDecimal 2 m.second ++
    (if m.microsecond = 0 then "" else "." ++ paddedDecimal 6 m.microsecond) ++
    (match m.offset with
      | none => ""
      | some o => offsetText o)

/-- The microseconds since the first day, in universal time. -/
def instant? (m : Moment) : Option Int :=
  m.offset.map fun o =>
    (((m.date.ordinal : Int) * 24 + m.hour) * 60 + m.minute - o) * 60000000 +
      m.second * 1000000 + m.microsecond

/-- Equality of moments: by the instant if both have one. -/
def same (a b : Moment) : Bool :=
  match a.instant?, b.instant? with
  | some i, some j => i == j
  | none, none => a == b
  | _, _ => false

end Moment

end SubmissionRouting
