import EntitySql.Text.Decimal
import EntitySql.Calendar.Timestamp

/-!
# Texts of dates and timestamps

Dates are written as year, month and day with hyphens.  A year from 0 to 9999 has four digits; any
other year has a sign and at least four digits.  A time has two digits for each part and a fraction
of the second with no, three, six or nine digits, whichever is the fewest that is exact.

## Main definitions

* `Date.text`, `TimeOfDay.text` : the texts of the parts.
* `Timestamp.text` : date and time with a separator between them.
* `Timestamp.rfc3339` : a UTC timestamp with the separator `T` and its offset of zero.
-/

namespace EntitySql.Calendar

open EntitySql.Text

/-- The text of a year. -/
def yearText (year : Int) : List Char :=
  if 0 ≤ year ∧ year ≤ 9999 then padded 4 year.natAbs
  else (if year < 0 then '-' else '+') :: padded 4 year.natAbs

/-- The text of a date. -/
def Date.text (d : Date) : List Char :=
  yearText d.year ++ '-' :: padded 2 d.month ++ '-' :: padded 2 d.day

/-- The fraction of a second, with its point; nothing for a whole second. -/
def fractionText (nanosecond : Nat) : List Char :=
  if nanosecond = 0 then []
  else if nanosecond % 1000000 = 0 then '.' :: padded 3 (nanosecond / 1000000)
  else if nanosecond % 1000 = 0 then '.' :: padded 6 (nanosecond / 1000)
  else '.' :: padded 9 nanosecond

/-- The text of a time of day. -/
def TimeOfDay.text (t : TimeOfDay) : List Char :=
  padded 2 t.hour ++ ':' :: padded 2 t.minute ++ ':' :: padded 2 t.second
    ++ fractionText t.nanosecond

/-- The text of a timestamp with a given separator. -/
def Timestamp.text (separator : Char) (t : Timestamp) : List Char :=
  t.date.text ++ separator :: t.time.text

/-- The text of a timestamp in UTC with its offset. -/
def Timestamp.rfc3339 (t : Timestamp) : List Char :=
  t.text 'T' ++ ['+', '0', '0', ':', '0', '0']

end EntitySql.Calendar
