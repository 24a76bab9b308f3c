/-!
# Calendar dates

Dates of the proleptic Gregorian calendar, from the year -262143 to the year 262142.  A date is a
year, a month and a day that exist together; its *day number* counts the days since 2000-01-01.

## Main definitions

* `Date` : a date that exists.
* `Date.ofYmd?` : the date with a given year, month and day, if there is one.
* `Date.toDays` : the day number of a date.
* `Date.ofDays?` : the date with a given day number, if it is in range.

## Main results

* `Date.ofYmd?_eq` : every date is found from its parts.
-/

namespace EntitySql.Calendar

/-- Whether a year has a 29th of February. -/
def isLeapYear (year : Int) : Bool :=
  year % 4 = 0 && (year % 100 ≠ 0 || year % 400 = 0)

/-- The lengths of the twelve months of a year. -/
def monthLengths (year : Int) : List Nat :=
  [31, if isLeapYear year then 29 else 28, 31, 30, 31, 30, 31, 31, 30, 31, 30, 31]

/-- The number of days of a month; none for a month that does not exist. -/
def daysInMonth (year : Int) (month : Nat) : Nat :=
  match month with
  | 0 => 0
  | m + 1 => (monthLengths year).getD m 0

/-- The first year of the calendar. -/
def firstYear : Int := -262143

/-- The last year of the calendar. -/
def lastYear : Int := 262142

/-- A year, a month and a day that exist together. -/
def Exists (year : Int) (month day : Nat) : Prop :=
  (firstYear ≤ year ∧ year ≤ lastYear) ∧ 1 ≤ day ∧ day ≤ daysInMonth year month

instance (year : Int) (month day : Nat) : Decidable (Exists year month day) :=
  inferInstanceAs (Decidable (_ ∧ _))

/-- A date that exists. -/
structure Date where
  year : Int
  month : Nat
  day : Nat
  valid : Exists year month day
deriving DecidableEq

/-- The number of days from the start of the year zero to the start of a year. -/
def daysBeforeYear (year : Int) : Int :=
  let y := year - 1
  365 * year + y / 4 - y / 100 + y / 400 + 1

/-- The year that a day lies in, with days counted from the start of the year zero.  The mean length
of a year gives an estimate that is wrong by one year at most. -/
def yearOfDay (day : Int) : Int :=
  let estimate := day * 400 / 146097
  if day < daysBeforeYear estimate then estimate - 1
  else if daysBeforeYear (estimate + 1) ≤ day then estimate + 1
  else estimate

/-- The month and the day of the month, from the lengths of the months and the days left.  Months
are counted on from `month`. -/
def monthAndDay (month : Nat) : List Nat → Nat → Nat × Nat
  | [], left => (month, left + 1)
  | length :: rest, left =>
      if left < length then (month, left + 1) else monthAndDay (month + 1) rest (left - length)

namespace Date

/-- The date with a given year, month and day, if there is one. -/
def ofYmd? (year : Int) (month day : Nat) : Option Date :=
  if h : Exists year month day then some ⟨year, month, day, h⟩ else none

theorem ofYmd?_eq (d : Date) : ofYmd? d.year d.month d.day = some d := by
  simp [ofYmd?, d.valid]

/-- The day from which day numbers count, in days from the start of the year zero. -/
def origin : Int :=
  daysBeforeYear 2000

/-- The number of days from 2000-01-01 to a date. -/
def toDays (d : Date) : Int :=
  let earlierMonths := (monthLengths d.year).take (d.month - 1)
  daysBeforeYear d.year - origin + earlierMonths.foldl Nat.add 0 + (d.day - 1 : Nat)

/-- The date with a given day number, if it is in range. -/
def ofDays? (days : Int) : Option Date :=
  let day := days + origin
  let year := yearOfDay day
  let (m, d) := monthAndDay 1 (monthLengths year) (day - daysBeforeYear year).toNat
  ofYmd? year m d

/-- The first of January 1970. -/
def epoch : Date :=
  ⟨1970, 1, 1, by decide⟩

end Date

end EntitySql.Calendar
