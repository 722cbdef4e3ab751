import Courier.Decimal.Layout

namespace Courier

/-! Instants of UTC time and their RFC 3339 text. An instant is a day of the
proleptic Gregorian calendar, a second of that day and nanoseconds; nanoseconds
from one to two billion mark a leap second, written as second 60. Days run from
the first of January of year -262143 to the last of December of year 262142. -/

/-- A day of the calendar: year, month from 1 and day of the month from 1. -/
structure CivilDate where
  year : Int
  month : Nat
  day : Nat
  deriving DecidableEq, Repr

/-- Whether a year of the proleptic Gregorian calendar has 366 days. -/
def isLeapYear (year : Int) : Bool :=
  (year % 4 == 0 && year % 100 != 0) || year % 400 == 0

def daysInMonth (year : Int) (month : Nat) : Nat :=
  match month with
  | 2 => if isLeapYear year then 29 else 28
  | 4 | 6 | 9 | 11 => 30
  | _ => 31

/-- The first and last years that dates may fall in. -/
def minYear : Int := -262143
def maxYear : Int := 262142

/-- Whether year, month and day name a day of the calendar in range. -/
def CivilDate.isValid (date : CivilDate) : Bool :=
  minYear ≤ date.year && date.year ≤ maxYear && 1 ≤ date.month && date.month ≤ 12 &&
    1 ≤ date.day && date.day ≤ daysInMonth date.year date.month

/-- The number of days from 1970-01-01 to a day of the calendar. -/
def CivilDate.toDays (date : CivilDate) : Int :=
  let y : Int := if date.month ≤ 2 then date.year - 1 else date.year
  let era := Int.fdiv y 400
  let yearOfEra := y - era * 400
  let m : Int := date.month
  let shifted : Int := if 2 < m then m - 3 else m + 9
  let dayOfYear := (153 * shifted + 2) / 5 + (date.day : Int) - 1
  let dayOfEra := yearOfEra * 365 + yearOfEra / 4 - yearOfEra / 100 + dayOfYear
  era * 146097 + dayOfEra - 719468

/-- The day of the calendar that lies a number of days after 1970-01-01. -/
def CivilDate.ofDays (days : Int) : CivilDate :=
  let z := days + 719468
  let era := Int.fdiv z 146097
  let dayOfEra := z - era * 146097
  let yearOfEra := (dayOfEra - dayOfEra / 1460 + dayOfEra / 36524 - dayOfEra / 146096) / 365
  let dayOfYear := dayOfEra - (365 * yearOfEra + yearOfEra / 4 - yearOfEra / 100)
  let mp := (5 * dayOfYear + 2) / 153
  let day := dayOfYear - (153 * mp + 2) / 5 + 1
  let month := if mp < 10 then mp + 3 else mp - 9
  let year := yearOfEra + era * 400 + (if month ≤ 2 then 1 else 0)
  ⟨year, month.toNat, day.toNat⟩

example : (CivilDate.mk 2024 1 2).toDays = 19724 := by decide
example : CivilDate.ofDays 19724 = ⟨2024, 1, 2⟩ := by decide
example : CivilDate.ofDays (-1) = ⟨1969, 12, 31⟩ := by decide

structure Instant where
  days : Int
  second : Nat
  nanos : Nat
  deriving DecidableEq, Repr

namespace Instant

/-- The instant from a count of seconds and nanoseconds since 1970-01-01. -/
def ofUnix (seconds : Int) (nanos : Nat) : Instant :=
  ⟨Int.fdiv seconds 86400, (Int.fmod seconds 86400).toNat, nanos⟩

/-- Seconds since 1970-01-01, leap seconds counted as the second before them. -/
def unixSeconds (t : Instant) : Int := t.days * 86400 + t.second

/-- The day of the calendar of an instant. -/
def date (t : Instant) : CivilDate := CivilDate.ofDays t.days

def pad2 (n : Nat) : String :=
  let text := digitString n
  if text.length < 2 then "0" ++ text else text

/-- A number with leading zeros to the given width. -/
def padTo (width : Nat) (n : Nat) : String :=
  let text := digitString n
  String.ofList (List.replicate (width - text.length) '0') ++ text

/-- The year as RFC 3339 writes it: four digits within 0 to 9999, otherwise a
sign and at least four digits. -/
def yearText (year : Int) : String :=
  if 0 ≤ year ∧ year ≤ 9999 then padTo 4 year.toNat
  else (if year < 0 then "-" else "+") ++ padTo 4 year.natAbs

/-- The fraction of a second: none when whole, otherwise three, six or nine
digits, the fewest of these that are exact. -/
def fractionText (nanos : Nat) : String :=
  if nanos = 0 then ""
  else if nanos % 1000000 = 0 then "." ++ padTo 3 (nanos / 1000000)
  else if nanos % 1000 = 0 then "." ++ padTo 6 (nanos / 1000)
  else "." ++ padTo 9 nanos

/-- The RFC 3339 text of an instant in UTC, ending in `Z`. -/
def render (t : Instant) : String :=
  let d := t.date
  let leap := 1000000000 ≤ t.nanos
  let second := t.second % 60 + (if leap then 1 else 0)
  let nanos := if leap then t.nanos - 1000000000 else t.nanos
  yearText d.year ++ "-" ++ pad2 d.month ++ "-" ++ pad2 d.day ++ "T" ++
    pad2 (t.second / 3600) ++ ":" ++ pad2 (t.second / 60 % 60) ++ ":" ++ pad2 second ++
    fractionText nanos ++ "Z"

example : (Instant.mk 19724 11045 0).render = "2024-01-02T03:04:05Z" := by decide
example : (Instant.mk 19724 11045 120000000).render = "2024-01-02T03:04:05.120Z" := by decide
example : (Instant.mk 17166 86399 1500000000).render = "2016-12-31T23:59:60.500Z" := by decide

end Instant

end Courier
