/-!
# The calendar

Days of the Gregorian calendar, extended to all years from 1 on, as a count of days since the
first of January of year 1.

## Main definitions

* `Date` - year, month and day
* `daysOfDate` - the count of days before a date
* `dateOfDays` - the date after a count of days

## Design notes

The year of a day is estimated from the mean length of a year and moved by at most one; the
month is found by walking the twelve months.
-/

namespace NavGraph.Time

/-- A date; months and days count from 1. -/
structure Date where
  year : Nat
  month : Nat
  day : Nat
  deriving DecidableEq, Repr

/-- Years that have a 29th of February. -/
def isLeapYear (year : Nat) : Bool := year % 4 == 0 && (year % 100 != 0 || year % 400 == 0)

/-- Days of the years before a year. -/
def daysBeforeYear (year : Nat) : Nat :=
  let past := year - 1
  365 * past + past / 4 - past / 100 + past / 400

/-- Lengths of the months of a year. -/
def monthLengths (leap : Bool) : List Nat :=
  [31, if leap then 29 else 28, 31, 30, 31, 30, 31, 31, 30, 31, 30, 31]

/-- The length of a month. -/
def daysInMonth (year month : Nat) : Nat := (monthLengths (isLeapYear year)).getD (month - 1) 0

/-- Days of the months of a year before a month. -/
def daysBeforeMonth (year month : Nat) : Nat :=
  ((monthLengths (isLeapYear year)).take (month - 1)).foldr (· + ·) 0

/-- Whether a date is one of the years 1 to 9999. -/
def Date.isValid (d : Date) : Bool :=
  1 ≤ d.year && d.year ≤ 9999 && 1 ≤ d.month && d.month ≤ 12 && 1 ≤ d.day &&
    d.day ≤ daysInMonth d.year d.month

/-- Days before a date. -/
def daysOfDate (d : Date) : Nat :=
  daysBeforeYear d.year + daysBeforeMonth d.year d.month + (d.day - 1)

/-- The year of a day. -/
def yearOfDays (days : Nat) : Nat :=
  let guess := 400 * days / 146097 + 1
  if daysBeforeYear (guess + 1) ≤ days then guess + 1
  else if days < daysBeforeYear guess then guess - 1
  else guess

/-- Month and day of the day of a year that a count of days leads to, past months before the
first in the list. -/
def monthAndDay (month days : Nat) : List Nat → Nat × Nat
  | [] => (month, days + 1)
  | length :: rest => if days < length then (month, days + 1) else
      monthAndDay (month + 1) (days - length) rest

/-- The date after a count of days. -/
def dateOfDays (days : Nat) : Date :=
  let year := yearOfDays days
  let (month, day) := monthAndDay 1 (days - daysBeforeYear year) (monthLengths (isLeapYear year))
  ⟨year, month, day⟩

end NavGraph.Time
