import EntitySql.Calendar.Reading
import EntitySql.Proofs.Calendar.DayNumber
import EntitySql.Proofs.Text.Numeral
import EntitySql.Proofs.Text.Trim

/-!
# Dates and timestamps are read back

Every date is found again from its text, and every timestamp from its text with a `T` between date
and time. In the strict notation this holds just of the years with four digits. With a blank in
place of the `T` nothing is found.

## Main definitions

* `Finds` : a reader finds a part in its text.
* `dateWith`, `timeWith` : readers of dates and times, for any way to read numbers and marks.

## Main results

* `Date.ofText?_text` : a date is found again from its text.
* `Timestamp.ofText?_text` : so is a timestamp, if a `T` stands before the time.
* `Timestamp.ofText?_text_blank` : nothing is found if a blank stands there.
* `Timestamp.ofRfc3339?_rfc3339_eq_some_iff` : a timestamp in UTC is found again from its strict
  text if its year has four digits.
-/

namespace EntitySql.Calendar

open EntitySql.Text

/-! ### Numbers and marks -/

/-- A reader finds a part in its text, whatever follows it but a digit. -/
def Finds {α : Type} (reader : Reader α) (text : List Char) (part : α) : Prop :=
  ∀ rest, EndsDigits rest → reader (text ++ rest) = some (part, rest)

theorem endsDigits_nil : EndsDigits [] :=
  fun _ h => by cases h

theorem endsDigits_cons {c : Char} (h : c.isDigit = false) (rest : List Char) :
    EndsDigits (c :: rest) :=
  fun d hd => by cases hd; exact h

theorem trimLeft_cons {c : Char} (h : isBlank c = false) (rest : List Char) :
    trimLeft (c :: rest) = c :: rest := by
  simp [trimLeft, h]

theorem trimLeft_digits {digits : List Char} (h : IsDigits digits) (rest : List Char) :
    trimLeft (digits ++ rest) = digits ++ rest := by
  obtain ⟨c, cs, rfl⟩ := List.exists_cons_of_ne_nil h.1
  exact trimLeft_cons (isBlank_of_isDigit (h.2 c List.mem_cons_self)) _

theorem number_padded {least limit width n : Nat} {rest : List Char}
    (hleast : least ≤ (padded width n).length) (hlimit : (padded width n).length ≤ limit)
    (hrest : EndsDigits rest) : number least limit (padded width n ++ rest) = some (n, rest) := by
  simp only [number, spanDigits_append (isDigits_padded width n).2 hlimit (Or.inr hrest)]
  rw [if_neg (Nat.not_lt.mpr hleast), ofDigits_padded]

theorem one_le_length_padded (width n : Nat) : 1 ≤ (padded width n).length :=
  List.length_pos_iff.mpr (isDigits_padded width n).1

theorem finds_strictNumber {count n : Nat} (hcount : 0 < count) (h : n < 10 ^ count) :
    Finds (strictNumber count) (padded count n) n := by
  intro rest hrest
  have hlength := length_padded hcount h
  exact number_padded hlength.ge hlength.le hrest

theorem strictNumber_cons {count : Nat} {c : Char} (hcount : 0 < count) (hc : c.isDigit = false)
    (rest : List Char) : strictNumber count (c :: rest) = none := by
  obtain ⟨count, rfl⟩ := Nat.exists_eq_succ_of_ne_zero hcount.ne'
  simp [strictNumber, number, spanDigits, hc]

theorem finds_looseNumber {n : Nat} (h : n < 100) : Finds looseNumber (padded 2 n) n := by
  intro rest hrest
  have hlength : (padded 2 n).length = 2 := length_padded Nat.two_pos h
  rw [looseNumber, trimLeft_digits (isDigits_padded 2 n)]
  exact number_padded (one_le_length_padded 2 n) hlength.le hrest

theorem mark_cons (c : Char) (rest : List Char) : mark c (c :: rest) = some ((), rest) :=
  if_pos rfl

theorem mark_digits {c : Char} {digits : List Char} (hc : c.isDigit = false)
    (hdigits : IsDigits digits) (rest : List Char) : mark c (digits ++ rest) = none := by
  cases hcs : digits ++ rest with
  | nil => rfl
  | cons d ds =>
      have hne : d ≠ c := by
        rintro rfl
        exact hdigits.append_ne_cons hc rest ds hcs
      exact if_neg hne

theorem looseMark_cons {c : Char} (h : isBlank c = false) (rest : List Char) :
    looseMark c (c :: rest) = some ((), rest) := by
  rw [looseMark, trimLeft_cons h, mark_cons]

/-! ### Dates -/

/-- A reader of dates from a reader of years, one of numbers and one of marks. -/
def dateWith (year : Reader Int) (number : Reader Nat) (mark : Char → Reader Unit) :
    Reader Date := fun cs => do
  let (year, cs) ← year cs
  let ((), cs) ← mark '-' cs
  let (month, cs) ← number cs
  let ((), cs) ← mark '-' cs
  let (day, cs) ← number cs
  let date ← Date.ofYmd? year month day
  some (date, cs)

/-- A year of four digits. -/
def strictYear : Reader Int := fun cs =>
  (strictNumber 4 cs).map fun p => ((p.1 : Int), p.2)

theorem looseDate_eq : looseDate = dateWith looseYear looseNumber looseMark := rfl

theorem strictDate_eq : strictDate = dateWith strictYear (strictNumber 2) mark := by
  funext cs
  rw [strictDate, dateWith, strictYear]
  cases strictNumber 4 cs <;> rfl

/-- Months and days have two digits. -/
theorem Date.month_day_lt (d : Date) : d.month < 100 ∧ d.day < 100 := by
  obtain ⟨month, left, length, hmonth, hday, hlength, hleft, -⟩ := d.exists_toDays_eq
  have hmonths : (monthLengths d.year).length = 12 := rfl
  have hlengths : ∀ n ∈ monthLengths d.year, n ≤ 31 := by
    unfold monthLengths
    split <;> decide
  have hlt := (List.getElem?_eq_some_iff.mp hlength).1
  have hle := hlengths length (List.mem_of_getElem? hlength)
  omega

theorem finds_dateWith {year : Reader Int} {number : Reader Nat} {mark : Char → Reader Unit}
    {d : Date} (hyear : Finds year (yearText d.year) d.year)
    (hnumber : ∀ n, n < 100 → Finds number (padded 2 n) n)
    (hmark : ∀ rest, mark '-' ('-' :: rest) = some ((), rest)) :
    Finds (dateWith year number mark) d.text d := by
  intro rest hrest
  have hsplit : d.text ++ rest =
      yearText d.year ++ ('-' :: (padded 2 d.month ++ ('-' :: (padded 2 d.day ++ rest)))) := by
    simp [Date.text]
  have hhyphen (rest : List Char) : EndsDigits ('-' :: rest) := endsDigits_cons (by decide) rest
  simp only [dateWith, hsplit, hyear _ (hhyphen _), hnumber _ d.month_day_lt.1 _ (hhyphen _),
    hnumber _ d.month_day_lt.2 _ hrest, hmark, Option.bind_eq_bind, Option.bind_some,
    Date.ofYmd?_eq]

theorem finds_longNumber (width n : Nat) : Finds longNumber (padded width n) n := by
  intro rest hrest
  exact number_padded (one_le_length_padded width n) (by simp) hrest

theorem finds_looseYear (year : Int) : Finds looseYear (yearText year) year := by
  intro rest hrest
  unfold yearText
  split_ifs with hshort hneg
  · -- a digit comes first, so neither sign is taken
    have hlength : (padded 4 year.natAbs).length = 4 := length_padded (by decide) (by omega)
    have hread := number_padded (one_le_length_padded 4 year.natAbs) hlength.le hrest
    have hdigits := isDigits_padded 4 year.natAbs
    rw [looseYear, trimLeft_digits hdigits]
    split
    · next cs heq => exact absurd heq (hdigits.append_ne_cons (by decide) rest cs)
    · next cs heq => exact absurd heq (hdigits.append_ne_cons (by decide) rest cs)
    · rw [hread, Option.map_some, Int.natAbs_of_nonneg hshort.1]
  · rw [List.cons_append, looseYear, trimLeft_cons (by decide)]
    simp only [finds_longNumber 4 year.natAbs rest hrest, Option.map_some]
    rw [Int.ofNat_natAbs_of_nonpos (by omega), Int.neg_neg]
  · rw [List.cons_append, looseYear, trimLeft_cons (by decide)]
    simp only [finds_longNumber 4 year.natAbs rest hrest, Option.map_some]
    rw [Int.natAbs_of_nonneg (by omega)]

theorem finds_looseDate (d : Date) : Finds looseDate d.text d := by
  rw [looseDate_eq]
  exact finds_dateWith (finds_looseYear d.year) (fun _ => finds_looseNumber)
    (looseMark_cons (by decide))

theorem finds_strictYear {year : Int} (h : 0 ≤ year ∧ year ≤ 9999) :
    Finds strictYear (yearText year) year := by
  intro rest hrest
  rw [yearText, if_pos h, strictYear, finds_strictNumber (by decide) (by omega) rest hrest,
    Option.map_some, Int.natAbs_of_nonneg h.1]

theorem finds_strictDate {d : Date} (h : 0 ≤ d.year ∧ d.year ≤ 9999) :
    Finds strictDate d.text d := by
  rw [strictDate_eq]
  exact finds_dateWith (finds_strictYear h) (fun _ => finds_strictNumber Nat.two_pos)
    (mark_cons '-')

/-! ### Times -/

/-- A text that goes on neither with a digit nor with a point. -/
def EndsTime (cs : List Char) : Prop :=
  ∀ c ∈ cs.head?, c.isDigit = false ∧ c ≠ '.'

theorem EndsTime.endsDigits {cs : List Char} (h : EndsTime cs) : EndsDigits cs :=
  fun c hc => (h c hc).1

theorem fraction_padded {width n : Nat} {rest : List Char} (hwidth : 0 < width)
    (hlimit : width ≤ 9) (h : n < 10 ^ width) (hrest : EndsDigits rest) :
    fraction ('.' :: padded width n ++ rest) = some (n * 10 ^ (9 - width), rest) := by
  have hlength := length_padded hwidth h
  have hspan := spanDigits_append (isDigits_padded width n).2 (hlength.le.trans hlimit)
    (Or.inr hrest)
  have hdrop : rest.dropWhile Char.isDigit = rest := by
    cases rest with
    | nil => rfl
    | cons c rest => simp [hrest c rfl]
  simp only [List.cons_append, fraction, hspan, hdrop, ofDigits_padded, hlength]
  rw [if_neg (isDigits_padded width n).1]
  rfl

theorem fraction_fractionText {nanosecond : Nat} {rest : List Char}
    (h : nanosecond < 1000000000) (hrest : EndsTime rest) :
    fraction (fractionText nanosecond ++ rest) = some (nanosecond, rest) := by
  unfold fractionText
  split_ifs with hzero hmillis hmicros
  · cases rest with
    | nil => rw [hzero]; rfl
    | cons c rest =>
        have hpoint : c ≠ '.' := (hrest c rfl).2
        rw [hzero, List.nil_append, fraction]
        rintro cs heq
        exact hpoint (List.cons.inj heq).1
  · rw [fraction_padded (by decide) (by decide) (by omega) hrest.endsDigits]
    congr 2
    omega
  · rw [fraction_padded (by decide) (by decide) (by omega) hrest.endsDigits]
    congr 2
    omega
  · rw [fraction_padded (by decide) (by decide) (by omega) hrest.endsDigits]
    congr 2
    omega

/-- A reader of times from a reader of numbers and one of marks. -/
def timeWith (number : Reader Nat) (mark : Char → Reader Unit) : Reader TimeOfDay := fun cs => do
  let (hour, cs) ← number cs
  let ((), cs) ← mark ':' cs
  let (minute, cs) ← number cs
  let ((), cs) ← mark ':' cs
  let (second, cs) ← number cs
  let (nanosecond, cs) ← fraction cs
  let time ← TimeOfDay.ofParts? hour minute second nanosecond
  some (time, cs)

theorem looseTime_eq : looseTime = timeWith looseNumber looseMark := rfl

theorem strictTime_eq : strictTime = timeWith (strictNumber 2) mark := rfl

theorem endsDigits_fractionText_append (nanosecond : Nat) {rest : List Char}
    (hrest : EndsTime rest) : EndsDigits (fractionText nanosecond ++ rest) := by
  have hpoint (rest : List Char) : EndsDigits ('.' :: rest) := endsDigits_cons (by decide) rest
  unfold fractionText
  split_ifs
  · exact hrest.endsDigits
  · exact hpoint _
  · exact hpoint _
  · exact hpoint _

theorem timeWith_text {number : Reader Nat} {mark : Char → Reader Unit} {rest : List Char}
    (t : TimeOfDay) (hnumber : ∀ n, n < 100 → Finds number (padded 2 n) n)
    (hmark : ∀ rest, mark ':' (':' :: rest) = some ((), rest)) (hrest : EndsTime rest) :
    timeWith number mark (t.text ++ rest) = some (t, rest) := by
  obtain ⟨hhour, hminute, hsecond, hnanosecond⟩ := t.valid
  have hsplit : t.text ++ rest = padded 2 t.hour ++ (':' :: (padded 2 t.minute ++
      (':' :: (padded 2 t.second ++ (fractionText t.nanosecond ++ rest))))) := by
    simp [TimeOfDay.text]
  have hcolon (rest : List Char) : EndsDigits (':' :: rest) := endsDigits_cons (by decide) rest
  simp only [timeWith, hsplit, hnumber t.hour (by omega) _ (hcolon _),
    hnumber t.minute (by omega) _ (hcolon _),
    hnumber t.second (by omega) _ (endsDigits_fractionText_append _ hrest), hmark,
    fraction_fractionText hnanosecond hrest, Option.bind_eq_bind, Option.bind_some,
    TimeOfDay.ofParts?_eq]

theorem looseTime_text {rest : List Char} (t : TimeOfDay) (hrest : EndsTime rest) :
    looseTime (t.text ++ rest) = some (t, rest) := by
  rw [looseTime_eq]
  exact timeWith_text t (fun _ => finds_looseNumber) (looseMark_cons (by decide)) hrest

theorem strictTime_text {rest : List Char} (t : TimeOfDay) (hrest : EndsTime rest) :
    strictTime (t.text ++ rest) = some (t, rest) := by
  rw [strictTime_eq]
  exact timeWith_text t (fun _ => finds_strictNumber Nat.two_pos) (mark_cons ':') hrest

/-! ### No blanks in the parts -/

theorem isBlank_of_mem_padded {width n : Nat} : ∀ c ∈ padded width n, isBlank c = false :=
  fun c hc => isBlank_of_isDigit ((isDigits_padded width n).2 c hc)

theorem isBlank_of_mem_dateText {d : Date} : ∀ c ∈ d.text, isBlank c = false := by
  have hhyphen : isBlank '-' = false := by decide
  have hyear : ∀ c ∈ yearText d.year, isBlank c = false := by
    unfold yearText
    split_ifs
    · exact isBlank_of_mem_padded
    · exact List.forall_mem_cons.mpr ⟨hhyphen, isBlank_of_mem_padded⟩
    · exact List.forall_mem_cons.mpr ⟨by decide, isBlank_of_mem_padded⟩
  simp only [Date.text, List.forall_mem_append, List.forall_mem_cons]
  exact ⟨⟨hyear, hhyphen, isBlank_of_mem_padded⟩, hhyphen, isBlank_of_mem_padded⟩

theorem isBlank_of_mem_timeText {t : TimeOfDay} : ∀ c ∈ t.text, isBlank c = false := by
  have hcolon : isBlank ':' = false := by decide
  have hpoint : isBlank '.' = false := by decide
  have hfraction : ∀ c ∈ fractionText t.nanosecond, isBlank c = false := by
    unfold fractionText
    split_ifs
    · simp
    · exact List.forall_mem_cons.mpr ⟨hpoint, isBlank_of_mem_padded⟩
    · exact List.forall_mem_cons.mpr ⟨hpoint, isBlank_of_mem_padded⟩
    · exact List.forall_mem_cons.mpr ⟨hpoint, isBlank_of_mem_padded⟩
  simp only [TimeOfDay.text, List.forall_mem_append, List.forall_mem_cons]
  exact ⟨⟨⟨isBlank_of_mem_padded, hcolon, isBlank_of_mem_padded⟩, hcolon, isBlank_of_mem_padded⟩,
    hfraction⟩

/-- A timestamp has no blank at either end, whatever stands between date and time. -/
theorem isTrimmed_timestampText (t : Timestamp) (separator : Char) :
    IsTrimmed (t.text separator) := by
  have hdate : t.date.text ≠ [] := by simp [Date.text]
  have htime : t.time.text ≠ [] := by simp [TimeOfDay.text]
  have htrimmed := (isTrimmed_of_forall isBlank_of_mem_dateText).append
    (isTrimmed_of_forall isBlank_of_mem_timeText) hdate htime [separator]
  rwa [List.append_assoc, List.singleton_append] at htrimmed

theorem isTrimmed_rfc3339 (t : Timestamp) : IsTrimmed t.rfc3339 := by
  have hoffset : IsTrimmed ['+', '0', '0', ':', '0', '0'] := by
    apply isTrimmed_of_forall
    simp only [List.forall_mem_cons, List.not_mem_nil, IsEmpty.forall_iff, implies_true, and_true]
    decide
  have htext : t.text 'T' ≠ [] := by simp [Timestamp.text]
  have htrimmed := (isTrimmed_timestampText t 'T').append hoffset htext (by simp) []
  rwa [List.append_nil] at htrimmed

/-! ### Whole texts -/

theorem whole?_of_eq {α : Type} {reader : Reader α} {cs : List Char} {part : α}
    (h : reader cs = some (part, [])) : whole? reader cs = some part := by
  simp only [whole?, h, Option.bind_eq_bind, Option.bind_some]
  exact if_pos rfl

theorem endsTime_nil : EndsTime [] :=
  fun _ h => by cases h

/-- A date is found again from its text. -/
theorem Date.ofText?_text (d : Date) : Date.ofText? d.text = some d := by
  have hdate := finds_looseDate d [] endsDigits_nil
  rw [List.append_nil] at hdate
  exact whole?_of_eq hdate

namespace Timestamp

/-- A timestamp is found again from its text, if a `T` stands before the time. -/
theorem ofText?_text (t : Timestamp) : ofText? (t.text 'T') = some t := by
  have hdate := finds_looseDate t.date ('T' :: t.time.text) (endsDigits_cons (by decide) _)
  have hmark : looseMark 'T' ('T' :: t.time.text) = some ((), t.time.text) :=
    looseMark_cons (by decide) t.time.text
  have htime := looseTime_text t.time endsTime_nil
  rw [List.append_nil] at htime
  apply whole?_of_eq
  simp only [text, hdate, hmark, htime, Option.bind_eq_bind, Option.bind_some]

/-- Nothing is found if a blank stands there: the time starts with a digit, and not with a `T`. -/
theorem ofText?_text_blank (t : Timestamp) : ofText? (t.text ' ') = none := by
  have hdate := finds_looseDate t.date (' ' :: t.time.text) (endsDigits_cons (by decide) _)
  have hmark : looseMark 'T' (' ' :: t.time.text) = none := by
    have hdigits := isDigits_padded 2 t.time.hour
    rw [looseMark, ← List.singleton_append, trimLeft_append_of_areBlank (by decide),
      TimeOfDay.text, List.append_assoc, List.append_assoc, trimLeft_digits hdigits]
    exact mark_digits (by decide) hdigits _
  rw [ofText?, whole?, text]
  simp only [hdate, hmark, Option.bind_eq_bind, Option.bind_some, Option.bind_none]

theorem shiftMinutes?_zero (t : Timestamp) : shiftMinutes? t 0 = some t := by
  obtain ⟨hhour, hminute, -, -⟩ := t.time.valid
  have hdays : ((t.time.hour * 60 + t.time.minute : ℕ) : ℤ) / 1440 = 0 := by omega
  have hleft : (((t.time.hour * 60 + t.time.minute : ℕ) : ℤ) % 1440).toNat =
      t.time.hour * 60 + t.time.minute := by omega
  have hhours : (t.time.hour * 60 + t.time.minute) / 60 % 24 = t.time.hour := by omega
  have hminutes : (t.time.hour * 60 + t.time.minute) % 60 = t.time.minute := by omega
  simp only [shiftMinutes?, add_zero, hdays, hleft, hhours, hminutes, Date.ofDays?_toDays,
    Option.map_some]

/-- A timestamp in UTC is found again from its strict text. -/
theorem ofRfc3339?_rfc3339 {t : Timestamp} (h : 0 ≤ t.date.year ∧ t.date.year ≤ 9999) :
    ofRfc3339? t.rfc3339 = some t := by
  have hends : EndsTime ['+', '0', '0', ':', '0', '0'] := by
    intro c hc
    cases hc
    decide
  have hsplit : t.rfc3339 =
      t.date.text ++ 'T' :: (t.time.text ++ ['+', '0', '0', ':', '0', '0']) := by
    simp [rfc3339, text]
  have hdate := finds_strictDate h ('T' :: (t.time.text ++ ['+', '0', '0', ':', '0', '0']))
    (endsDigits_cons (by decide) _)
  have htime := strictTime_text t.time hends
  have hzero : offset ['+', '0', '0', ':', '0', '0'] = some (0, []) := by decide
  simp only [ofRfc3339?, hsplit, hdate, strictSeparator, htime, hzero, Option.bind_eq_bind,
    Option.bind_some, if_true, neg_zero, shiftMinutes?_zero]

/-- The strict notation has no sign for a year. -/
theorem ofRfc3339?_rfc3339_of_signed {t : Timestamp}
    (h : ¬ (0 ≤ t.date.year ∧ t.date.year ≤ 9999)) : ofRfc3339? t.rfc3339 = none := by
  have hyear : ∃ sign digits, sign.isDigit = false ∧ yearText t.date.year = sign :: digits := by
    rw [yearText, if_neg h]
    split_ifs
    · exact ⟨_, _, by decide, rfl⟩
    · exact ⟨_, _, by decide, rfl⟩
  obtain ⟨sign, digits, hsign, htext⟩ := hyear
  have hnumber (rest : List Char) : strictNumber 4 (sign :: rest) = none :=
    strictNumber_cons (by decide) hsign rest
  simp only [ofRfc3339?, strictDate, rfc3339, text, Date.text, htext, List.cons_append, hnumber,
    Option.bind_eq_bind, Option.bind_none]

theorem ofRfc3339?_rfc3339_eq_some_iff {t : Timestamp} :
    ofRfc3339? t.rfc3339 = some t ↔ 0 ≤ t.date.year ∧ t.date.year ≤ 9999 := by
  by_cases h : 0 ≤ t.date.year ∧ t.date.year ≤ 9999
  · exact iff_of_true (ofRfc3339?_rfc3339 h) h
  · refine iff_of_false ?_ h
    rw [ofRfc3339?_rfc3339_of_signed h]
    exact (Option.some_ne_none t).symm

end Timestamp

end EntitySql.Calendar
