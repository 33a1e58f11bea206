set_option autoImplicit false

/-!
# The calendar

Days are counted from the first of January 1970 and dated by the Gregorian calendar, which is
extended to all years.

## Main definitions

* `MergeTurn.Time.Date` — a year, month and day.
* `MergeTurn.Time.Date.isValid` — whether the calendar has such a day.
* `MergeTurn.Time.Date.dayNumber` — the number of a date's day.
* `MergeTurn.Time.Date.ofDayNumber` — the date of a day.

## Design

Both directions count in years that begin in March, so that the leap day is the last of its year,
and in eras of four hundred years, after which the calendar repeats.
-/

namespace MergeTurn.Time

/-- A day by year, month and day of the month, the latter two counted from one. -/
structure Date where
  year : Int
  month : Nat
  day : Nat
deriving DecidableEq, Repr

/-- Whether a year has a leap day. -/
def isLeapYear (year : Int) : Bool :=
  year % 4 == 0 && (year % 100 != 0 || year % 400 == 0)

/-- The number of days of a month. -/
def monthLength (year : Int) (month : Nat) : Nat :=
  if month = 2 then if isLeapYear year then 29 else 28
  else if month = 4 ∨ month = 6 ∨ month = 9 ∨ month = 11 then 30
  else 31

/-- Whether the calendar has such a day. -/
def Date.isValid (d : Date) : Bool :=
  1 ≤ d.month && d.month ≤ 12 && 1 ≤ d.day && d.day ≤ monthLength d.year d.month

/-- The number of a date's day, counted from the first of January 1970. -/
def Date.dayNumber (d : Date) : Int :=
  let year := if d.month ≤ 2 then d.year - 1 else d.year
  let era := year / 400
  let yearOfEra := year % 400
  let monthOfYear : Int := (d.month + 9) % 12
  let dayOfYear := (153 * monthOfYear + 2) / 5 + d.day - 1
  let dayOfEra := yearOfEra * 365 + yearOfEra / 4 - yearOfEra / 100 + dayOfYear
  era * 146097 + dayOfEra - 719468

/-- The date of a day counted from the first of January 1970. -/
def Date.ofDayNumber (n : Int) : Date :=
  let m := n + 719468
  let era := m / 146097
  let dayOfEra := m % 146097
  let yearOfEra := (dayOfEra - dayOfEra / 1460 + dayOfEra / 36524 - dayOfEra / 146096) / 365
  let dayOfYear := dayOfEra - (365 * yearOfEra + yearOfEra / 4 - yearOfEra / 100)
  let monthOfYear := (5 * dayOfYear + 2) / 153
  let day := dayOfYear - (153 * monthOfYear + 2) / 5 + 1
  let month := if monthOfYear < 10 then monthOfYear + 3 else monthOfYear - 9
  let year := yearOfEra + era * 400
  ⟨if month ≤ 2 then year + 1 else year, month.toNat, day.toNat⟩

example : Date.dayNumber ⟨1970, 1, 1⟩ = 0 ∧ Date.dayNumber ⟨2024, 2, 29⟩ = 19782 := by decide
example : Date.ofDayNumber 19782 = ⟨2024, 2, 29⟩ ∧ Date.ofDayNumber (-1) = ⟨1969, 12, 31⟩ := by
  decide

end MergeTurn.Time
