import EntitySql.Calendar.Date

/-!
# Times of day and timestamps

A time of day has an hour, a minute, a second and nanoseconds.  Second 60 is a leap second; any
minute may have one.  A timestamp is a date with a time of day; whether it means local time or UTC
is up to its user.

## Main definitions

* `TimeOfDay` : a time that a clock can show.
* `Timestamp` : a date with a time of day.
* `Timestamp.shiftMinutes?` : a timestamp moved by minutes, if the date stays in range.
* `Timestamp.toMicroseconds` : microseconds since the start of 2000-01-01, cut toward zero.
* `Timestamp.ofMicroseconds?` : the timestamp at a number of microseconds, if it is in range.
-/

namespace EntitySql.Calendar

/-- Hour, minute, second and nanosecond of a time that a clock can show; second 60 is a leap
second. -/
structure TimeOfDay where
  hour : Nat
  minute : Nat
  second : Nat
  nanosecond : Nat
  valid : hour < 24 ∧ minute < 60 ∧ second ≤ 60 ∧ nanosecond < 1000000000
deriving DecidableEq

/-- The number of nanoseconds in a second. -/
def nanosPerSecond : Nat := 1000000000

/-- The number of microseconds in a day. -/
def microsPerDay : Nat := 86400000000

namespace TimeOfDay

/-- The time with given parts, if a clock can show it. -/
def ofParts? (hour minute second nanosecond : Nat) : Option TimeOfDay :=
  if h : hour < 24 ∧ minute < 60 ∧ second ≤ 60 ∧ nanosecond < 1000000000 then
    some ⟨hour, minute, second, nanosecond, h⟩
  else none

theorem ofParts?_eq (t : TimeOfDay) :
    ofParts? t.hour t.minute t.second t.nanosecond = some t := by
  simp [ofParts?, t.valid]

/-- The start of the day. -/
def midnight : TimeOfDay :=
  ⟨0, 0, 0, 0, by decide⟩

/-- The nanoseconds since midnight.  A leap second counts as the second that follows it. -/
def toNanoseconds (t : TimeOfDay) : Nat :=
  (t.hour * 3600 + t.minute * 60 + t.second) * nanosPerSecond + t.nanosecond

/-- The time that is a number of microseconds after midnight, for less than a day. -/
def ofMicroseconds (micros : Nat) : TimeOfDay :=
  let seconds := micros / 1000000
  ⟨seconds / 3600 % 24, seconds / 60 % 60, seconds % 60, micros % 1000000 * 1000, by omega⟩

end TimeOfDay

/-- A date with a time of day. -/
structure Timestamp where
  date : Date
  time : TimeOfDay
deriving DecidableEq

namespace Timestamp

/-- The start of a date. -/
def atMidnight (d : Date) : Timestamp :=
  ⟨d, .midnight⟩

/-- The start of 1970. -/
def epoch : Timestamp :=
  atMidnight .epoch

/-- A timestamp moved by a number of minutes, if the date stays in range.  The seconds stay, also a
leap second. -/
def shiftMinutes? (t : Timestamp) (minutes : Int) : Option Timestamp :=
  let total := (t.time.hour * 60 + t.time.minute : Nat) + minutes
  let left := (total % 1440).toNat
  (Date.ofDays? (t.date.toDays + total / 1440)).map fun date =>
    ⟨date, left / 60 % 24, left % 60, t.time.second, t.time.nanosecond, by
      have := t.time.valid
      omega⟩

/-- The microseconds from the start of 2000-01-01, cut toward zero. -/
def toMicroseconds (t : Timestamp) : Int :=
  (t.date.toDays * (86400 * nanosPerSecond : Nat) + t.time.toNanoseconds).tdiv 1000

/-- The timestamp at a number of microseconds from the start of 2000-01-01, if it is in range. -/
def ofMicroseconds? (micros : Int) : Option Timestamp :=
  (Date.ofDays? (micros / microsPerDay)).map fun date =>
    ⟨date, .ofMicroseconds (micros % microsPerDay).toNat⟩

end Timestamp

end EntitySql.Calendar
