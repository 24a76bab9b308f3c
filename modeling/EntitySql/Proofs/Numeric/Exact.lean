import Mathlib.Algebra.Order.Field.Power
import Mathlib.Data.Int.Log
import Mathlib.Data.Nat.Cast.Field
import Mathlib.Data.Rat.Floor
import Mathlib.Tactic.FieldSimp
import Mathlib.Tactic.Linarith
import Mathlib.Tactic.NormNum
import Mathlib.Tactic.Positivity
import Mathlib.Tactic.Ring
import EntitySql.Numeric.Double

/-!
# Exact values of floating-point numbers

A finite number of a binary format is a rational number, a mantissa times a power of two. A ratio
that is the value of a number is rounded to that number, so different magnitudes have different
values, and an integer that a double can hold is found again from it.

## Main definitions

* `FloatFormat.value` : the value of a finite magnitude.
* `Double.value?` : the value of a finite double.

## Main results

* `powerOfTwoBelow_eq_log` : the power of two below a ratio is its logarithm.
* `FloatFormat.nearest_of_value` : a ratio that is the value of a magnitude is rounded to it.
* `Double.toInt?_eq_some_iff` : the integer of a double is its value.
* `Double.agrees_ofInt` : an integer that is the value of a double gives that double again.
-/

namespace EntitySql.Numeric

/-! ### Powers of two -/

theorem two_zpow_le_iff {q : ℚ} (hq : 0 < q) {k : ℤ} : (2 : ℚ) ^ k ≤ q ↔ k ≤ Int.log 2 q := by
  have h := Int.zpow_le_iff_le_log (R := ℚ) (b := 2) (by norm_num) (x := k) hq
  simpa using h

theorem lt_two_zpow_iff {q : ℚ} (hq : 0 < q) {k : ℤ} : q < (2 : ℚ) ^ k ↔ Int.log 2 q < k := by
  simpa using Int.lt_zpow_iff_log_lt (R := ℚ) (b := 2) (by norm_num) (x := k) hq

/-- The logarithm of a ratio is at most one below the difference of the logarithms. -/
private theorem log_div_bounds {num den : Nat} (hnum : 0 < num) (hden : 0 < den) :
    (num.log2 : ℤ) - den.log2 ≤ Int.log 2 ((num : ℚ) / den) + 1 ∧
      Int.log 2 ((num : ℚ) / den) ≤ num.log2 - den.log2 := by
  have hnum' : (0 : ℚ) < num := by exact_mod_cast hnum
  have hden' : (0 : ℚ) < den := by exact_mod_cast hden
  have hnumLow : (2 : ℚ) ^ (num.log2 : ℤ) ≤ num := by
    exact_mod_cast Nat.log2_self_le hnum.ne'
  have hnumHigh : (num : ℚ) < 2 ^ ((num.log2 : ℤ) + 1) := by
    exact_mod_cast Nat.lt_log2_self
  have hdenLow : (2 : ℚ) ^ (den.log2 : ℤ) ≤ den := by
    exact_mod_cast Nat.log2_self_le hden.ne'
  have hdenHigh : (den : ℚ) < 2 ^ ((den.log2 : ℤ) + 1) := by
    exact_mod_cast Nat.lt_log2_self
  have hq : (0 : ℚ) < num / den := div_pos hnum' hden'
  have hlow : (2 : ℚ) ^ ((num.log2 : ℤ) - den.log2 - 1) ≤ num / den := by
    rw [le_div_iff₀ hden']
    calc (2 : ℚ) ^ ((num.log2 : ℤ) - den.log2 - 1) * den
        ≤ 2 ^ ((num.log2 : ℤ) - den.log2 - 1) * 2 ^ ((den.log2 : ℤ) + 1) := by gcongr
      _ = 2 ^ (num.log2 : ℤ) := by
          rw [← zpow_add₀ two_ne_zero]
          congr 1
          ring
      _ ≤ num := hnumLow
  have hhigh : (num : ℚ) / den < 2 ^ ((num.log2 : ℤ) - den.log2 + 1) := by
    rw [div_lt_iff₀ hden']
    calc (num : ℚ) < 2 ^ ((num.log2 : ℤ) + 1) := hnumHigh
      _ = 2 ^ ((num.log2 : ℤ) - den.log2 + 1) * 2 ^ (den.log2 : ℤ) := by
          rw [← zpow_add₀ two_ne_zero]
          congr 1
          ring
      _ ≤ 2 ^ ((num.log2 : ℤ) - den.log2 + 1) * den := by gcongr
  rw [two_zpow_le_iff hq] at hlow
  rw [lt_two_zpow_iff hq] at hhigh
  omega

/-- A ratio divided by a power of two. -/
theorem overPowerOfTwo_div (num : Nat) {den : Nat} (hden : 0 < den) (k : ℤ) :
    0 < (overPowerOfTwo num den k).2 ∧
      ((overPowerOfTwo num den k).1 : ℚ) / (overPowerOfTwo num den k).2 =
        num / den / 2 ^ k := by
  unfold overPowerOfTwo
  split
  · next hk =>
      obtain ⟨n, rfl⟩ := Int.eq_ofNat_of_zero_le hk
      refine ⟨Nat.mul_pos hden (Nat.pow_pos two_pos), ?_⟩
      simp [div_div]
  · next hk =>
      obtain ⟨n, hn⟩ := Int.eq_ofNat_of_zero_le (a := -k) (by omega)
      obtain rfl : k = -n := by omega
      refine ⟨hden, ?_⟩
      simp [mul_div_right_comm]

/-- The power of two below a ratio is its logarithm. -/
theorem powerOfTwoBelow_eq_log {num den : Nat} (hnum : 0 < num) (hden : 0 < den) :
    powerOfTwoBelow num den = Int.log 2 ((num : ℚ) / den) := by
  have hbounds := log_div_bounds hnum hden
  have hq : (0 : ℚ) < num / den := by positivity
  obtain ⟨hpos, hdiv⟩ := overPowerOfTwo_div num hden ((num.log2 : ℤ) - den.log2)
  have hcast : (overPowerOfTwo num den (num.log2 - den.log2)).2 ≤
      (overPowerOfTwo num den (num.log2 - den.log2)).1 ↔
        (2 : ℚ) ^ ((num.log2 : ℤ) - den.log2) ≤ num / den := by
    rw [← Nat.cast_le (α := ℚ), ← one_le_div (Nat.cast_pos.mpr hpos), hdiv]
    exact one_le_div (zpow_pos two_pos _)
  rw [two_zpow_le_iff hq] at hcast
  unfold powerOfTwoBelow
  dsimp only
  split
  · next h =>
      have := hcast.mp h
      omega
  · next h =>
      have := mt hcast.mpr h
      omega

theorem div_eq_intCast_iff {num den : Nat} (hden : 0 < den) {k : ℤ} :
    (num : ℚ) / den = k ↔ num % den = 0 ∧ (num / den : Nat) = k := by
  have hden' : (den : ℚ) ≠ 0 := by exact_mod_cast hden.ne'
  constructor
  · intro h
    have hmul : (num : ℤ) = k * den := by exact_mod_cast (div_eq_iff hden').mp h
    have hdvd : den ∣ num := Int.natCast_dvd_natCast.mp ⟨k, by rw [hmul, mul_comm]⟩
    refine ⟨Nat.mod_eq_zero_of_dvd hdvd, ?_⟩
    rw [Int.natCast_div, hmul, Int.mul_ediv_cancel _ (by exact_mod_cast hden.ne')]
  · rintro ⟨hmod, hdiv⟩
    rw [← Nat.cast_div (Nat.dvd_of_mod_eq_zero hmod) hden', ← hdiv, Int.cast_natCast]

theorem roundHalfEven_mul (n : Nat) {d : Nat} (hd : 0 < d) : roundHalfEven (n * d) d = n := by
  simp [roundHalfEven, hd]

namespace FloatFormat

variable {f : FloatFormat} {magnitude other num den : Nat}

/-- The value of a finite magnitude. -/
def value (f : FloatFormat) (magnitude : Nat) : ℚ :=
  (f.parts magnitude).1 * 2 ^ (f.parts magnitude).2

theorem value_nonneg (f : FloatFormat) (magnitude : Nat) : 0 ≤ f.value magnitude := by
  unfold value
  positivity

theorem unit_eq (f : FloatFormat) : f.unit = 2 ^ f.fractionBits := rfl

/-- A magnitude is a mantissa and a number of steps from the least exponent; only the magnitudes
without a step have a small mantissa. -/
theorem exists_step (f : FloatFormat) (magnitude : Nat) : ∃ step : Nat,
    (f.parts magnitude).2 = f.leastExponent + step ∧
      magnitude = step * f.unit + (f.parts magnitude).1 ∧
      (f.parts magnitude).1 < 2 * f.unit ∧ (step = 0 ∨ f.unit ≤ (f.parts magnitude).1) := by
  have hunit : 0 < f.unit := Nat.pow_pos two_pos
  have hmod := Nat.mod_lt magnitude hunit
  have hdiv := Nat.div_add_mod' magnitude f.unit
  unfold parts
  dsimp only
  split
  · next h =>
      rw [h] at hdiv
      exact ⟨0, by simp, by omega, by omega, Or.inl rfl⟩
  · next h =>
      obtain ⟨step, hstep⟩ := Nat.exists_eq_succ_of_ne_zero h
      rw [hstep, Nat.succ_mul] at hdiv
      exact ⟨step, by simp [hstep], by omega, by omega, Or.inr (by omega)⟩

/-- A ratio that is the value of a magnitude is rounded to it. -/
theorem nearest_of_value (hfinite : magnitude < f.infinity) (hden : 0 < den)
    (h : (num : ℚ) / den = f.value magnitude) : f.nearest num den = magnitude := by
  obtain ⟨step, hexp, hmag, hlt, hnormal⟩ := f.exists_step magnitude
  have hden' : (0 : ℚ) < den := by exact_mod_cast hden
  rw [value] at h
  rw [unit_eq] at hlt hnormal
  generalize (f.parts magnitude).1 = m at h hmag hlt hnormal
  generalize (f.parts magnitude).2 = e at h hexp
  rcases Nat.eq_zero_or_pos num with rfl | hnum
  · -- Only the magnitude zero has no mantissa.
    have hm : m = 0 := by
      rw [Nat.cast_zero, zero_div, zero_eq_mul, Nat.cast_eq_zero] at h
      exact h.resolve_right (by positivity)
    have hstep : step = 0 := hnormal.resolve_right (by simp [hm])
    rw [nearest, if_pos rfl, hmag, hm, hstep]
    simp
  · have hq : (0 : ℚ) < num / den := by positivity
    have hupper : (num : ℚ) / den < 2 ^ (e + f.fractionBits + 1) := by
      have hlt' : (m : ℚ) < 2 ^ f.fractionBits * 2 := by exact_mod_cast mul_comm 2 _ ▸ hlt
      rw [h, zpow_add_one₀ two_ne_zero, zpow_add₀ two_ne_zero, zpow_natCast, mul_assoc, mul_comm]
      gcongr
    have hlower : step = 0 ∨ (2 : ℚ) ^ (e + f.fractionBits) ≤ num / den := by
      refine hnormal.imp_right fun hle => ?_
      have hle' : (2 : ℚ) ^ f.fractionBits ≤ m := by exact_mod_cast hle
      rw [h, zpow_add₀ two_ne_zero, zpow_natCast, mul_comm]
      gcongr
    have hexponent : max f.leastExponent (powerOfTwoBelow num den - f.fractionBits) = e := by
      rw [lt_two_zpow_iff hq] at hupper
      rw [two_zpow_le_iff hq] at hlower
      rw [powerOfTwoBelow_eq_log hnum hden]
      omega
    obtain ⟨hpos, hdiv⟩ := overPowerOfTwo_div num hden e
    have hmantissa : (overPowerOfTwo num den e).1 = m * (overPowerOfTwo num den e).2 := by
      rw [h, mul_div_cancel_right₀ _ (by positivity), div_eq_iff (by positivity)] at hdiv
      exact_mod_cast hdiv
    have hstep : (e - f.leastExponent).toNat = step := by omega
    rw [nearest, if_neg hnum.ne']
    simp only [hexponent, hmantissa, roundHalfEven_mul m hpos, hstep, ← hmag]
    exact Nat.min_eq_right hfinite.le

end FloatFormat

namespace Double

open FloatFormat

variable {x y : Double} {k : ℤ}

/-- The value of a finite double. -/
def value? (x : Double) : Option ℚ :=
  match x.datum with
  | .finite negative m e => some ((if negative then -1 else 1) * (m * 2 ^ e))
  | _ => none

/-! ### Sign and magnitude -/

theorem value?_of_lt (h : x.magnitude < double.infinity) :
    x.value? = some ((if x.isNegative then -1 else 1) * double.value x.magnitude) := by
  have hdatum : x.datum = .finite x.isNegative (double.parts x.magnitude).1
      (double.parts x.magnitude).2 := by
    rw [datum, FloatFormat.datum]
    exact (if_neg h.ne).trans (if_neg h.not_gt)
  rw [value?, hdatum]
  rfl

theorem magnitude_lt_of_value? {q : ℚ} (h : x.value? = some q) :
    x.magnitude < double.infinity := by
  by_contra hnot
  rcases (not_lt.mp hnot).eq_or_lt with hinf | hnan
  · have hdatum : x.datum = .infinite x.isNegative := if_pos hinf.symm
    rw [value?, hdatum] at h
    cases h
  · have hdatum : x.datum = .notANumber := by
      rw [datum, FloatFormat.datum]
      exact (if_neg hnan.ne').trans (if_pos hnan)
    rw [value?, hdatum] at h
    cases h

theorem signWeight_double : double.signWeight = 9223372036854775808 := by
  decide

theorem ofMagnitude_magnitude (x : Double) : ofMagnitude x.isNegative x.magnitude = x := by
  have hbits : x.magnitude + (if x.isNegative then double.signWeight else 0) = x.bits.toNat := by
    have hlt := x.bits.toNat_lt
    rw [magnitude, isNegative, signWeight_double]
    split
    · next h =>
        have hle := of_decide_eq_true h
        omega
    · next h =>
        have hlt' := Nat.not_le.mp (of_decide_eq_false (eq_false_of_ne_true h))
        omega
  rw [ofMagnitude, hbits, UInt64.ofNat_toNat]

theorem magnitude_ofMagnitude (negative : Bool) {magnitude : Nat}
    (h : magnitude < double.signWeight) :
    (ofMagnitude negative magnitude).magnitude = magnitude := by
  rw [signWeight_double] at h
  rw [Double.magnitude, ofMagnitude, signWeight_double]
  change (magnitude + if negative then 9223372036854775808 else 0) % 2 ^ 64 %
    9223372036854775808 = magnitude
  split <;> omega

/-! ### Numerical equality -/

theorem agrees_eq_true_iff : x.agrees y = true ↔ x.isNaN = false ∧ y.isNaN = false ∧
    (x = y ∨ x.magnitude = 0 ∧ y.magnitude = 0) := by
  have hbits : x.bits = y.bits ↔ x = y := by
    rw [Double.mk.injEq]
  simp [agrees, hbits, and_assoc]

/-- Doubles that are equal as numbers have the same value. -/
theorem value?_eq_of_agrees (h : x.agrees y = true) : x.value? = y.value? := by
  obtain ⟨-, -, rfl | ⟨hx, hy⟩⟩ := agrees_eq_true_iff.mp h
  · rfl
  · have hzero : double.value 0 = 0 := by simp [value, parts]
    have hpos : 0 < double.infinity := by decide
    rw [value?_of_lt (hx ▸ hpos), value?_of_lt (hy ▸ hpos), hx, hy, hzero, mul_zero, mul_zero]

/-! ### Integers -/

/-- The integer of a double is its value. -/
theorem toInt?_eq_some_iff : x.toInt? = some k ↔ x.value? = some (k : ℚ) := by
  rw [toInt?, value?]
  cases x.datum with
  | notANumber | infinite => simp
  | finite negative m e =>
      obtain ⟨hpos, hdiv⟩ := overPowerOfTwo_div m one_pos (-e)
      rw [Nat.cast_one, div_one, zpow_neg, div_inv_eq_mul] at hdiv
      dsimp only
      cases negative with
      | false => simp [← hdiv, div_eq_intCast_iff hpos]
      | true =>
          have hneg : (-1 : ℚ) * (m * 2 ^ e) = k ↔ m * 2 ^ e = ((-k : ℤ) : ℚ) := by
            rw [neg_one_mul, neg_eq_iff_eq_neg, Int.cast_neg]
          simp only [↓reduceIte, Option.some.injEq, hneg]
          rw [← hdiv, div_eq_intCast_iff hpos]
          simp [neg_eq_iff_eq_neg]

/-- An integer that is the value of a double gives that double again, but for the sign of zero. -/
theorem agrees_ofInt (h : x.value? = some (k : ℚ)) : (ofInt k).agrees x = true := by
  have hlt := magnitude_lt_of_value? h
  have hlimit : double.infinity < double.signWeight := by decide
  rw [value?_of_lt hlt, Option.some.injEq] at h
  have hnonneg := double.value_nonneg x.magnitude
  have habs : (k.natAbs : ℚ) = double.value x.magnitude := by
    rw [Nat.cast_natAbs, Int.cast_abs, ← h]
    cases x.isNegative <;> simp [abs_of_nonneg hnonneg]
  have hnearest : double.nearest k.natAbs 1 = x.magnitude :=
    nearest_of_value hlt one_pos (by rw [habs, Nat.cast_one, div_one])
  have hmagnitude : (ofInt k).magnitude = x.magnitude := by
    rw [ofInt, hnearest]
    exact magnitude_ofMagnitude _ (hlt.trans hlimit)
  have hnan {z : Double} (hz : z.magnitude = x.magnitude) : z.isNaN = false :=
    decide_eq_false (hz ▸ hlt.not_gt)
  refine agrees_eq_true_iff.mpr ⟨hnan hmagnitude, hnan rfl, ?_⟩
  rcases eq_or_ne x.magnitude 0 with hzero | hne
  · exact Or.inr ⟨hmagnitude.trans hzero, hzero⟩
  · have hvalue : 0 < double.value x.magnitude := by
      refine hnonneg.lt_of_ne fun hzero => hne ?_
      rw [← hzero, Nat.cast_eq_zero] at habs
      rw [← hnearest, habs]
      rfl
    have hsign : decide (k < 0) = x.isNegative := by
      cases hx : x.isNegative with
      | false =>
          rw [hx, if_neg Bool.false_ne_true, one_mul] at h
          rw [h] at hvalue
          exact decide_eq_false (by exact_mod_cast hvalue.le.not_gt)
      | true =>
          rw [hx, if_pos rfl, neg_one_mul] at h
          rw [← neg_neg (double.value _), h, neg_pos] at hvalue
          exact decide_eq_true (by exact_mod_cast hvalue)
    rw [ofInt, hnearest, hsign]
    exact Or.inl x.ofMagnitude_magnitude

end Double

end EntitySql.Numeric
