/-!
# Timestamps

A timestamp counts seconds from the beginning of 1970 in universal time, with nanoseconds beside it.
A leap second is the second before it with a billion nanoseconds or more.

Days are counted in the proleptic Gregorian calendar: `daysOfDate` and `dateOfDays` convert between a
day number and a date, both by moving the year to begin in March, so that the leap day is its last
day.
-/

set_option autoImplicit false
set_option relaxedAutoImplicit false

namespace Courier

/-- A point in time. -/
structure Timestamp where
  seconds : Int
  /-- Below two billion; a leap second has a billion or more. -/
  nanos : Nat
  deriving DecidableEq, Repr, Inhabited

namespace Timestamp

/-- A calendar day. -/
structure Date where
  year : Int
  month : Nat
  day : Nat
  deriving DecidableEq, Repr

/-- The year has a leap day. -/
def isLeapYear (year : Int) : Bool :=
  year % 4 = 0 && (year % 100 ≠ 0 || year % 400 = 0)

/-- The number of days of a month; there is no other month than the twelve. -/
def daysInMonth (year : Int) (month : Nat) : Nat :=
  if month = 2 then (if isLeapYear year then 29 else 28)
  else if month = 4 ∨ month = 6 ∨ month = 9 ∨ month = 11 then 30
  else if 1 ≤ month ∧ month ≤ 12 then 31
  else 0

/-- The date exists and lies in the years that timestamps cover. -/
def Date.isValid (d : Date) : Bool :=
  1 ≤ d.day && d.day ≤ daysInMonth d.year d.month && -262143 ≤ d.year && d.year ≤ 262142

/-- The number of a day; the first of January 1970 has number zero. -/
def daysOfDate (d : Date) : Int :=
  let year := if d.month ≤ 2 then d.year - 1 else d.year
  let era := year.fdiv 400
  let yearOfEra := year - era * 400
  let month : Int := if 2 < d.month then (d.month : Int) - 3 else d.month + 9
  let dayOfYear := (153 * month + 2) / 5 + d.day - 1
  let dayOfEra := yearOfEra * 365 + yearOfEra / 4 - yearOfEra / 100 + dayOfYear
  era * 146097 + dayOfEra - 719468

/-- The date of a day number. -/
def dateOfDays (days : Int) : Date :=
  let shifted := days + 719468
  let era := shifted.fdiv 146097
  let dayOfEra := shifted - era * 146097
  let yearOfEra := (dayOfEra - dayOfEra / 1460 + dayOfEra / 36524 - dayOfEra / 146096) / 365
  let dayOfYear := dayOfEra - (365 * yearOfEra + yearOfEra / 4 - yearOfEra / 100)
  let month := (5 * dayOfYear + 2) / 153
  let day := dayOfYear - (153 * month + 2) / 5 + 1
  let civil := if month < 10 then month + 3 else month - 9
  { year := yearOfEra + era * 400 + (if civil ≤ 2 then 1 else 0)
    month := civil.toNat
    day := day.toNat }

/-- The order of time. -/
def before (a b : Timestamp) : Bool :=
  a.seconds < b.seconds || (a.seconds = b.seconds && a.nanos < b.nanos)

/-- A timestamp some nanoseconds later; leap seconds do not count. -/
def addNanos (t : Timestamp) (n : Nat) : Timestamp :=
  let total := t.nanos + n
  ⟨t.seconds + total / 1000000000, total % 1000000000⟩

end Timestamp

end Courier
