import EntitySql.Calendar.Timestamp

/-!
# Day numbers

A day number determines a date. The year of a day is estimated from the mean length of a year, and
one comparison with the days before a year corrects the estimate; the month is found by walking
through the lengths of the months.

## Main definitions

* `Timestamp.IsWholeMicrosecond` : the timestamps that microseconds can express.

## Main results

* `daysBeforeYear_succ` : the length of a year.
* `yearOfDay_eq` : the year of a day.
* `monthAndDay_daysOf` : the month of a day of a year.
* `Date.ofDays?_toDays` : a date is found again from its day number.
* `Timestamp.ofMicroseconds?_toMicroseconds` : so is a timestamp from its microseconds.
-/

namespace EntitySql.Calendar

/-! ### Years -/

/-- The number of days of a year. -/
def yearLength (year : Int) : Nat :=
  if isLeapYear year then 366 else 365

theorem daysBeforeYear_succ (year : Int) :
    daysBeforeYear (year + 1) = daysBeforeYear year + yearLength year := by
  have hleap : isLeapYear year = true ↔ year % 4 = 0 ∧ (year % 100 ≠ 0 ∨ year % 400 = 0) := by
    simp [isLeapYear]
  simp only [yearLength, daysBeforeYear]
  split
  · next h =>
      rw [hleap] at h
      omega
  · next h =>
      rw [hleap] at h
      omega

/-- The days before a year are not far from the mean. -/
theorem daysBeforeYear_bounds (year : Int) :
    146097 * year - 396 ≤ 400 * daysBeforeYear year ∧
      400 * daysBeforeYear year ≤ 146097 * year + 699 := by
  simp only [daysBeforeYear]
  omega

/-- The year of a day is the one that starts with the day or before it and ends behind it. -/
theorem yearOfDay_eq {day year : Int} (hstart : daysBeforeYear year ≤ day)
    (hend : day < daysBeforeYear (year + 1)) : yearOfDay day = year := by
  have hbounds := daysBeforeYear_bounds year
  have hbounds' := daysBeforeYear_bounds (year + 1)
  have hsucc := daysBeforeYear_succ year
  have hpred := daysBeforeYear_succ (year - 1)
  rw [Int.sub_add_cancel] at hpred
  have hestimate : day * 400 / 146097 = year - 1 ∨ day * 400 / 146097 = year ∨
      day * 400 / 146097 = year + 1 := by omega
  unfold yearOfDay
  rcases hestimate with h | h | h <;> simp only [h, Int.sub_add_cancel]
  · rw [if_neg (by omega), if_pos hstart]
  · rw [if_neg (by omega), if_neg (by omega)]
  · rw [if_pos hend]
    omega

/-! ### Months -/

/-- The number of days of a number of months. -/
def daysOf (lengths : List Nat) : Nat :=
  lengths.foldl Nat.add 0

@[simp]
theorem daysOf_nil : daysOf [] = 0 := rfl

@[simp]
theorem daysOf_cons (first : Nat) (rest : List Nat) :
    daysOf (first :: rest) = first + daysOf rest := by
  have : Std.Associative Nat.add := ⟨Nat.add_assoc⟩
  have hstart : Nat.add 0 first = Nat.add first 0 := Nat.add_comm 0 first
  rw [daysOf, List.foldl_cons, hstart, List.foldl_assoc]
  rfl

theorem daysOf_monthLengths (year : Int) : daysOf (monthLengths year) = yearLength year := by
  unfold monthLengths yearLength
  split <;> rfl

/-- The month of a day is the one that is reached when the days of the earlier months are gone. -/
theorem monthAndDay_daysOf {lengths : List Nat} {k left length : Nat}
    (hk : lengths[k]? = some length) (hleft : left < length) (month : Nat) :
    monthAndDay month lengths (daysOf (lengths.take k) + left) = (month + k, left + 1) := by
  induction lengths generalizing k month with
  | nil => simp at hk
  | cons first rest ih =>
      cases k with
      | zero =>
          obtain rfl : first = length := by simpa using hk
          simp [monthAndDay, hleft]
      | succ k =>
          have hk' : rest[k]? = some length := by simpa using hk
          have hge : ¬ first + daysOf (rest.take k) + left < first := by omega
          have hsub : first + daysOf (rest.take k) + left - first =
              daysOf (rest.take k) + left := by omega
          rw [List.take_succ_cons, daysOf_cons, monthAndDay, if_neg hge, hsub, ih hk']
          congr 1
          omega

theorem daysOf_take_add_le {lengths : List Nat} {k length : Nat} (hk : lengths[k]? = some length) :
    daysOf (lengths.take k) + length ≤ daysOf lengths := by
  induction lengths generalizing k with
  | nil => simp at hk
  | cons first rest ih =>
      cases k with
      | zero =>
          obtain rfl : first = length := by simpa using hk
          simp
      | succ k =>
          have hrest := ih (k := k) (by simpa using hk)
          rw [List.take_succ_cons, daysOf_cons, daysOf_cons]
          omega

namespace Date

/-- The day of a date in its year: the days of the earlier months and those of its own before it. -/
theorem exists_toDays_eq (d : Date) : ∃ month left length,
    d.month = 1 + month ∧ d.day = left + 1 ∧ (monthLengths d.year)[month]? = some length ∧
      left < length ∧ d.toDays + origin =
        daysBeforeYear d.year + (daysOf ((monthLengths d.year).take month) + left : Nat) := by
  obtain ⟨year, month, day, -, hday, hlength⟩ := d
  cases month with
  | zero =>
      rw [daysInMonth] at hlength
      omega
  | succ month =>
      rw [daysInMonth, List.getD_eq_getElem?_getD] at hlength
      cases hk : (monthLengths year)[month]? with
      | none =>
          rw [hk, Option.getD_none] at hlength
          omega
      | some length =>
          rw [hk, Option.getD_some] at hlength
          refine ⟨month, day - 1, length, Nat.add_comm month 1, (Nat.sub_add_cancel hday).symm, hk,
            by omega, ?_⟩
          simp only [toDays, daysOf, Nat.add_sub_cancel]
          omega

/-- The days of a year are those from its start to the start of the next one. -/
theorem toDays_bounds (d : Date) :
    daysBeforeYear d.year ≤ d.toDays + origin ∧
      d.toDays + origin < daysBeforeYear (d.year + 1) := by
  obtain ⟨month, left, length, -, -, hk, hleft, hdays⟩ := d.exists_toDays_eq
  have hsum := daysOf_take_add_le hk
  rw [daysOf_monthLengths] at hsum
  have hsucc := daysBeforeYear_succ d.year
  omega

/-- A date is found again from its day number. -/
theorem ofDays?_toDays (d : Date) : ofDays? d.toDays = some d := by
  obtain ⟨month, left, length, hmonth, hday, hk, hleft, hdays⟩ := d.exists_toDays_eq
  have hyear : yearOfDay (d.toDays + origin) = d.year :=
    yearOfDay_eq d.toDays_bounds.1 d.toDays_bounds.2
  have hrest : (d.toDays + origin - daysBeforeYear d.year).toNat =
      daysOf ((monthLengths d.year).take month) + left := by omega
  simp only [ofDays?, hyear, hrest, monthAndDay_daysOf hk hleft, ← hmonth, ← hday]
  exact ofYmd?_eq d

/-- No date is further from the year 2000 than a hundred million days. -/
theorem toDays_lt (d : Date) : -100000000 < d.toDays ∧ d.toDays < 100000000 := by
  have hvalid := d.valid.1
  have hbounds := d.toDays_bounds
  have hstart := daysBeforeYear_bounds d.year
  have hend := daysBeforeYear_bounds (d.year + 1)
  have horigin : origin = 730485 := by decide
  unfold firstYear lastYear at hvalid
  omega

end Date

/-! ### Times -/

namespace TimeOfDay

/-- The microseconds since midnight, cut toward zero. -/
def toMicroseconds (t : TimeOfDay) : Nat :=
  (t.hour * 3600 + t.minute * 60 + t.second) * 1000000 + t.nanosecond / 1000

variable {t : TimeOfDay}

theorem toMicroseconds_lt (hsecond : t.second < 60) : t.toMicroseconds < microsPerDay := by
  have hvalid := t.valid
  unfold toMicroseconds microsPerDay
  omega

/-- A time of day is found again from its microseconds. -/
theorem ofMicroseconds_toMicroseconds (hsecond : t.second < 60) (hnanos : t.nanosecond % 1000 = 0) :
    ofMicroseconds t.toMicroseconds = t := by
  have hvalid := t.valid
  have hseconds : t.toMicroseconds / 1000000 = t.hour * 3600 + t.minute * 60 + t.second := by
    unfold toMicroseconds
    omega
  have hmicros : t.toMicroseconds % 1000000 * 1000 = t.nanosecond := by
    unfold toMicroseconds
    omega
  have hhour : (t.hour * 3600 + t.minute * 60 + t.second) / 3600 % 24 = t.hour := by omega
  have hminute : (t.hour * 3600 + t.minute * 60 + t.second) / 60 % 60 = t.minute := by omega
  have hsecond' : (t.hour * 3600 + t.minute * 60 + t.second) % 60 = t.second := by omega
  simp only [ofMicroseconds, hseconds, hmicros, hhour, hminute, hsecond']

end TimeOfDay

namespace Timestamp

/-- Whether a timestamp has a whole number of microseconds and shows no leap second. -/
def IsWholeMicrosecond (t : Timestamp) : Prop :=
  t.time.second < 60 ∧ t.time.nanosecond % 1000 = 0

instance (t : Timestamp) : Decidable t.IsWholeMicrosecond :=
  inferInstanceAs (Decidable (_ ∧ _))

variable {t : Timestamp}

theorem toMicroseconds_eq (h : t.IsWholeMicrosecond) :
    t.toMicroseconds = t.date.toDays * microsPerDay + t.time.toMicroseconds := by
  have hnanos : t.date.toDays * (86400 * nanosPerSecond : Nat) + t.time.toNanoseconds =
      1000 * (t.date.toDays * microsPerDay + t.time.toMicroseconds) := by
    have hwhole := h.2
    unfold TimeOfDay.toNanoseconds TimeOfDay.toMicroseconds nanosPerSecond microsPerDay
    omega
  rw [toMicroseconds, hnanos, Int.mul_tdiv_cancel_left _ (by decide)]

/-- The microseconds of a timestamp fit into eight bytes with a sign. -/
theorem toMicroseconds_lt (h : t.IsWholeMicrosecond) :
    -9223372036854775808 ≤ t.toMicroseconds ∧ t.toMicroseconds < 9223372036854775808 := by
  have hdays := t.date.toDays_lt
  have htime := TimeOfDay.toMicroseconds_lt h.1
  rw [toMicroseconds_eq h]
  unfold microsPerDay at htime ⊢
  omega

/-- A timestamp is found again from its microseconds. -/
theorem ofMicroseconds?_toMicroseconds (h : t.IsWholeMicrosecond) :
    ofMicroseconds? t.toMicroseconds = some t := by
  have hlt := TimeOfDay.toMicroseconds_lt h.1
  have hdays : t.toMicroseconds / microsPerDay = t.date.toDays := by
    rw [toMicroseconds_eq h]
    unfold microsPerDay at hlt ⊢
    omega
  have htime : (t.toMicroseconds % microsPerDay).toNat = t.time.toMicroseconds := by
    rw [toMicroseconds_eq h]
    unfold microsPerDay at hlt ⊢
    omega
  rw [ofMicroseconds?, hdays, htime, Date.ofDays?_toDays,
    TimeOfDay.ofMicroseconds_toMicroseconds h.1 h.2]
  rfl

end Timestamp

end EntitySql.Calendar
