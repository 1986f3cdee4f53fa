/-!
# Dates

Days of the Gregorian calendar, extended to all years from 1 to 9999.

## Main definitions

* `Date`: a day that exists.
* `Date.ordinal`: the number of days since 1 January of year 1.
* `Date.ofOrdinal?`: the day with a given ordinal.
-/

namespace ChatRecords

def isLeapYear (year : Nat) : Bool :=
  year % 4 == 0 && (year % 100 != 0 || year % 400 == 0)

def monthLengths (year : Nat) : List Nat :=
  [31, if isLeapYear year then 29 else 28, 31, 30, 31, 30, 31, 31, 30, 31, 30, 31]

/-- The number of days in a month, and zero if there is no such month. -/
def daysInMonth (year month : Nat) : Nat :=
  if month = 0 then 0 else (monthLengths year).getD (month - 1) 0

/-- Whether a year, a month and a day name a day of the calendar. -/
def IsDate (year month day : Nat) : Prop :=
  1 ≤ year ∧ year ≤ 9999 ∧ 1 ≤ month ∧ month ≤ 12 ∧ 1 ≤ day ∧ day ≤ daysInMonth year month

instance (year month day : Nat) : Decidable (IsDate year month day) := by
  unfold IsDate; infer_instance

/-- A day of the calendar. -/
structure Date where
  year : Nat
  month : Nat
  day : Nat
  valid : IsDate year month day
deriving DecidableEq

/-- The number of days from 1 January of year 1 to 1 January of a year. -/
def daysBeforeYear (year : Nat) : Nat :=
  let past := year - 1
  365 * past + past / 4 - past / 100 + past / 400

/-- The number of days of a year before the first of a month. -/
def daysBeforeMonth (year month : Nat) : Nat :=
  ((monthLengths year).take (month - 1)).foldl (· + ·) 0

namespace Date

/-- The fields of a day, from the year down. -/
def fields (d : Date) : List Nat := [d.year, d.month, d.day]

/-- The day with a given year, month and day of the month. -/
def of? (year month day : Nat) : Option Date :=
  if h : IsDate year month day then some ⟨year, month, day, h⟩ else none

/-- The number of days since 1 January of year 1. -/
def ordinal (d : Date) : Nat :=
  daysBeforeYear d.year + daysBeforeMonth d.year d.month + (d.day - 1)

/-- The last year, from `year` on, that begins no later than day `n`; the fuel bounds how many
years are tried. -/
def yearFrom (n : Nat) : Nat → Nat → Nat
  | 0, year => year
  | fuel + 1, year => if daysBeforeYear (year + 1) ≤ n then yearFrom n fuel (year + 1) else year

/-- The year that day `n` lies in. It is at least `n / 366 + 1` and at most `n / 365 + 1`. -/
def yearOf (n : Nat) : Nat := yearFrom n (n / 365 - n / 366) (n / 366 + 1)

/-- The month and the day of the month of a day of the year, counted from zero, when the months
from `month` on have the given lengths. -/
def monthAndDay : (lengths : List Nat) → (month day : Nat) → Nat × Nat
  | [], month, day => (month, day + 1)
  | length :: rest, month, day =>
    if day < length then (month, day + 1) else monthAndDay rest (month + 1) (day - length)

def dayCount : Nat := daysBeforeYear 10000

/-- The day that is `n` days after 1 January of year 1, if it is one of the calendar. -/
def ofOrdinal? (n : Nat) : Option Date :=
  if n < dayCount then
    let year := yearOf n
    let r := monthAndDay (monthLengths year) 1 (n - daysBeforeYear year)
    of? year r.1 r.2
  else none

end Date
end ChatRecords
