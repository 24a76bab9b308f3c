import Mathlib.Data.List.Induction
import Mathlib.Data.Nat.Digits.Defs
import EntitySql.Proofs.Text.Token

/-!
# Numerals are read back

The digits of a number denote that number again, also behind a sign and with zeros in front. A
reader of at most a given number of digits stops behind them if no digit follows.

## Main definitions

* `IsDigits` : one or more decimal digits.
* `decimalValue` : the number that digits denote, by their places.
* `IsNumeral` : the numerals with an optional sign, and their numbers.

## Main results

* `ofDigits_padded` : the digits of a number denote it.
* `integer?_eq_some_iff` : exactly the numerals are read, each as its number.
* `integer?_signedNumeral` : an integer is found again from its numeral.
* `length_padded` : the number of digits that are written.
* `spanDigits_append` : what a reader of digits finds.
-/

namespace EntitySql.Text

/-! ### The number of digits -/

/-- One or more decimal digits. -/
def IsDigits (cs : List Char) : Prop :=
  cs ≠ [] ∧ ∀ c ∈ cs, c.isDigit = true

/-- The number that digits denote: the last one counts ones, and each other one counts ten times
what the next one counts. -/
def decimalValue (digits : List Char) : Nat :=
  Nat.ofDigits 10 (digits.reverse.map digitValue)

/-- A text that starts with digits starts with no other character. -/
theorem IsDigits.append_ne_cons {digits : List Char} (h : IsDigits digits) {c : Char}
    (hc : c.isDigit = false) (rest cs : List Char) : digits ++ rest ≠ c :: cs := by
  obtain ⟨d, ds, rfl⟩ := List.exists_cons_of_ne_nil h.1
  intro heq
  have hd := h.2 d List.mem_cons_self
  rw [(List.cons.inj heq).1, hc] at hd
  cases hd

theorem ofDigitsFrom_append (n : Nat) (cs ds : List Char) :
    ofDigitsFrom n (cs ++ ds) = ofDigitsFrom (ofDigitsFrom n cs) ds := by
  induction cs generalizing n with
  | nil => rfl
  | cons c cs ih => exact ih _

theorem ofDigits_concat (cs : List Char) (c : Char) :
    ofDigits (cs ++ [c]) = 10 * ofDigits cs + digitValue c :=
  ofDigitsFrom_append 0 cs [c]

theorem ofDigits_singleton (c : Char) : ofDigits [c] = digitValue c := by
  have hstep : ofDigits [c] = 10 * 0 + digitValue c := rfl
  rw [hstep, Nat.mul_zero]
  exact Nat.zero_add _

theorem ofDigits_eq_decimalValue (cs : List Char) : ofDigits cs = decimalValue cs := by
  induction cs using List.reverseRecOn with
  | nil => rfl
  | append_singleton cs c ih =>
      rw [ofDigits_concat, ih, decimalValue, decimalValue, List.reverse_concat, List.map_cons,
        Nat.ofDigits_cons, Nat.add_comm]

/-! ### Written numbers -/

theorem digitValue_digitChar {d : Nat} (h : d < 10) : digitValue (digitChar d) = d := by
  revert d
  decide

theorem ofDigits_numeral (n : Nat) : ofDigits (numeral n) = n := by
  fun_induction numeral n with
  | case1 n h => rw [ofDigits_singleton, digitValue_digitChar h]
  | case2 n h ih =>
      rw [ofDigits_concat, ih, digitValue_digitChar (Nat.mod_lt n (by decide)), Nat.div_add_mod]

theorem isDigits_numeral (n : Nat) : IsDigits (numeral n) := by
  refine ⟨?_, isDigit_of_mem_numeral n⟩
  unfold numeral
  split <;> simp

theorem ofDigits_zeros_append (count : Nat) (cs : List Char) :
    ofDigits (List.replicate count '0' ++ cs) = ofDigits cs := by
  induction count with
  | zero => rfl
  | succ count ih => exact ih

/-- The digits of a number denote it. -/
theorem ofDigits_padded (width n : Nat) : ofDigits (padded width n) = n := by
  rw [padded, ofDigits_zeros_append, ofDigits_numeral]

theorem isDigits_padded (width n : Nat) : IsDigits (padded width n) := by
  refine ⟨by simp [padded, (isDigits_numeral n).1], List.forall_mem_append.mpr ⟨?_, ?_⟩⟩
  · intro c hc
    rw [List.eq_of_mem_replicate hc]
    decide
  · exact isDigit_of_mem_numeral n

/-! ### How many digits are written -/

theorem length_numeral_le {width n : Nat} (hwidth : 0 < width) (h : n < 10 ^ width) :
    (numeral n).length ≤ width := by
  fun_induction numeral n generalizing width with
  | case1 => exact hwidth
  | case2 n hn ih =>
      obtain ⟨width, rfl⟩ := Nat.exists_eq_succ_of_ne_zero hwidth.ne'
      have hdiv : n / 10 < 10 ^ width := by
        rw [Nat.div_lt_iff_lt_mul (by decide)]
        exact h
      have hpos : 0 < width := by
        rcases Nat.eq_zero_or_pos width with rfl | hpos
        · omega
        · exact hpos
      simpa using ih hpos hdiv

theorem length_padded {width n : Nat} (hwidth : 0 < width) (h : n < 10 ^ width) :
    (padded width n).length = width := by
  have := length_numeral_le hwidth h
  simp [padded]
  omega

/-! ### Reading digits -/

/-- A text that does not go on with a digit. -/
def EndsDigits (cs : List Char) : Prop :=
  ∀ c ∈ cs.head?, c.isDigit = false

theorem spanDigits_append {digits rest : List Char} {limit : Nat}
    (hdigits : ∀ c ∈ digits, c.isDigit = true) (hlength : digits.length ≤ limit)
    (hrest : digits.length = limit ∨ EndsDigits rest) :
    spanDigits limit (digits ++ rest) = (digits, rest) := by
  induction digits generalizing limit with
  | nil =>
      cases limit with
      | zero => rfl
      | succ limit =>
          cases rest with
          | nil => rfl
          | cons c rest =>
              have hc : c.isDigit = false := (hrest.resolve_left (by simp)) c rfl
              simp [spanDigits, hc]
  | cons c digits ih =>
      rw [List.forall_mem_cons] at hdigits
      obtain ⟨limit, rfl⟩ := Nat.exists_eq_succ_of_ne_zero (n := limit) (by
        rintro rfl
        simp at hlength)
      have hih : spanDigits limit (digits ++ rest) = (digits, rest) :=
        ih hdigits.2 (by simpa using hlength) (by simpa using hrest)
      simp [spanDigits, hdigits.1, hih]

/-! ### Reading numerals -/

theorem natural?_eq_some_iff {cs : List Char} {n : Nat} :
    natural? cs = some n ↔ IsDigits cs ∧ decimalValue cs = n := by
  rw [natural?, ofDigits_eq_decimalValue]
  split
  · next h =>
      have hdigits : IsDigits cs := ⟨h.1, List.all_eq_true.mp h.2⟩
      rw [Option.some.injEq]
      exact (and_iff_right hdigits).symm
  · next h =>
      refine ⟨fun hsome => (by cases hsome), fun ⟨hdigits, _⟩ => ?_⟩
      exact absurd ⟨hdigits.1, List.all_eq_true.mpr hdigits.2⟩ h

/-- The numerals with an optional sign, and the numbers that they denote; a minus only where it is
allowed. -/
inductive IsNumeral (signed : Bool) : List Char → Int → Prop
  | bare {digits} (h : IsDigits digits) : IsNumeral signed digits (decimalValue digits)
  | plus {digits} (h : IsDigits digits) : IsNumeral signed ('+' :: digits) (decimalValue digits)
  | minus {digits} (hsigned : signed = true) (h : IsDigits digits) :
      IsNumeral signed ('-' :: digits) (-decimalValue digits)

theorem integer?_of_isDigits {cs : List Char} (h : IsDigits cs) (signed : Bool) :
    integer? signed cs = some (decimalValue cs : Int) := by
  have hsign {c : Char} (hc : c.isDigit = false) (rest : List Char) : cs ≠ c :: rest := by
    simpa using h.append_ne_cons hc [] rest
  rw [integer?, natural?_eq_some_iff.mpr ⟨h, rfl⟩]
  · rfl
  · exact fun rest => hsign (by decide) rest
  · exact fun rest => hsign (by decide) rest

/-- Exactly the numerals are read, each as its number. -/
theorem integer?_eq_some_iff {signed : Bool} {cs : List Char} {n : Int} :
    integer? signed cs = some n ↔ IsNumeral signed cs n := by
  constructor
  · intro h
    unfold integer? at h
    split at h
    · obtain ⟨m, hm, rfl⟩ := Option.map_eq_some_iff.mp h
      obtain ⟨hdigits, rfl⟩ := natural?_eq_some_iff.mp hm
      exact .plus hdigits
    · split at h
      · next hsigned =>
          obtain ⟨m, hm, rfl⟩ := Option.map_eq_some_iff.mp h
          obtain ⟨hdigits, rfl⟩ := natural?_eq_some_iff.mp hm
          exact .minus hsigned hdigits
      · cases h
    · obtain ⟨m, hm, rfl⟩ := Option.map_eq_some_iff.mp h
      obtain ⟨hdigits, rfl⟩ := natural?_eq_some_iff.mp hm
      exact .bare hdigits
  · intro h
    cases h with
    | bare hdigits => exact integer?_of_isDigits hdigits signed
    | plus hdigits =>
        rw [integer?, natural?_eq_some_iff.mpr ⟨hdigits, rfl⟩]
        rfl
    | minus hsigned hdigits =>
        rw [integer?, if_pos hsigned, natural?_eq_some_iff.mpr ⟨hdigits, rfl⟩]
        rfl

theorem decimalValue_numeral (n : Nat) : decimalValue (numeral n) = n := by
  rw [← ofDigits_eq_decimalValue, ofDigits_numeral]

/-- An integer is found again from its numeral. -/
theorem integer?_signedNumeral {signed : Bool} {n : Int} (h : signed = true ∨ 0 ≤ n) :
    integer? signed (signedNumeral n) = some n := by
  rw [integer?_eq_some_iff, signedNumeral]
  split
  · next hneg =>
      have hnumeral := IsNumeral.minus (h.resolve_right (by omega)) (isDigits_numeral n.natAbs)
      rwa [decimalValue_numeral, Int.ofNat_natAbs_of_nonpos (by omega), Int.neg_neg] at hnumeral
  · next hneg =>
      have hnumeral : IsNumeral signed (numeral n.natAbs) (decimalValue (numeral n.natAbs)) :=
        .bare (isDigits_numeral n.natAbs)
      rwa [decimalValue_numeral, Int.natAbs_of_nonneg (by omega)] at hnumeral

end EntitySql.Text
