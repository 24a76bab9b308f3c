/-!
# Binary floating-point formats

A number of a binary format is kept as its bits.  The bits without the sign are its *magnitude*, a
natural number: zero is `0`, the magnitudes grow with the numbers, infinity follows the greatest
number, and everything above infinity is not a number.  All arithmetic here is exact: a finite
magnitude stands for a mantissa times a power of two, a ratio of natural numbers is rounded to the
nearest magnitude, and a tie goes to the even one.

## Main definitions

* `FloatFormat` : the widths of the fraction and of the exponent.
* `FloatFormat.Datum`, `FloatFormat.datum` : what bits stand for.
* `FloatFormat.nearest` : the magnitude nearest to a ratio.
* `FloatFormat.ofDecimal` : the magnitude nearest to a decimal number.
* `FloatFormat.product`, `FloatFormat.quotient` : rounded arithmetic on finite magnitudes.
-/

namespace EntitySql.Numeric

/-- A binary format: the number of bits of the fraction and of the exponent. -/
structure FloatFormat where
  fractionBits : Nat
  exponentBits : Nat
deriving DecidableEq

/-- The quotient of two natural numbers, rounded to the nearest; a half goes to the even one. -/
def roundHalfEven (num den : Nat) : Nat :=
  let q := num / den
  let r := num % den
  if 2 * r < den then q else if den < 2 * r then q + 1 else q + q % 2

/-- A ratio divided by a power of two, as a ratio. -/
def overPowerOfTwo (num den : Nat) (exponent : Int) : Nat × Nat :=
  if 0 ≤ exponent then (num, den * Nat.pow 2 exponent.toNat)
  else (num * Nat.pow 2 (-exponent).toNat, den)

/-- The greatest power of two that is not above a positive ratio, by its exponent. -/
def powerOfTwoBelow (num den : Nat) : Int :=
  let k : Int := num.log2 - den.log2
  let (n, d) := overPowerOfTwo num den k
  if d ≤ n then k else k - 1

namespace FloatFormat

/-- The format of 64 bits. -/
def double : FloatFormat := ⟨52, 11⟩

/-- The format of 32 bits. -/
def single : FloatFormat := ⟨23, 8⟩

variable (f : FloatFormat)

/-- The number of magnitudes between two neighbouring powers of two. -/
def unit : Nat :=
  Nat.pow 2 f.fractionBits

/-- The exponent of the least positive number. -/
def leastExponent : Int :=
  2 - Int.pow 2 (f.exponentBits - 1) - f.fractionBits

/-- The magnitude of infinity. -/
def infinity : Nat :=
  (Nat.pow 2 f.exponentBits - 1) * f.unit

/-- The magnitude of the usual quiet value that is not a number. -/
def quietNaN : Nat :=
  f.infinity + f.unit / 2

/-- The weight of the sign bit. -/
def signWeight : Nat :=
  Nat.pow 2 (f.fractionBits + f.exponentBits)

/-- What bits stand for: a finite number is a mantissa times a power of two. -/
inductive Datum where
  | notANumber
  | infinite (negative : Bool)
  | finite (negative : Bool) (mantissa : Nat) (exponent : Int)
deriving DecidableEq

/-- The mantissa and the exponent of a finite magnitude. -/
def parts (magnitude : Nat) : Nat × Int :=
  let e := magnitude / f.unit
  let m := magnitude % f.unit
  if e = 0 then (m, f.leastExponent) else (f.unit + m, f.leastExponent + (e - 1 : Nat))

/-- What bits stand for. -/
def datum (bits : Nat) : Datum :=
  let negative := f.signWeight ≤ bits
  let magnitude := bits % f.signWeight
  if magnitude = f.infinity then .infinite negative
  else if f.infinity < magnitude then .notANumber
  else .finite negative (f.parts magnitude).1 (f.parts magnitude).2

/-- The magnitude nearest to the ratio of two natural numbers, even on ties; infinity above the
greatest number. -/
def nearest (num den : Nat) : Nat :=
  if num = 0 then 0
  else
    let exponent := max f.leastExponent (powerOfTwoBelow num den - f.fractionBits)
    let (n, d) := overPowerOfTwo num den exponent
    let step := (exponent - f.leastExponent).toNat
    min f.infinity (step * f.unit + roundHalfEven n d)

/-- The magnitude nearest to `digits * 10 ^ exponent`.  The two early cases keep the powers small;
they are far outside the range of the format. -/
def ofDecimal (digits : Nat) (exponent : Int) : Nat :=
  let far : Int := Int.pow 2 f.exponentBits
  if digits = 0 then 0
  else if far < exponent then f.infinity
  else if exponent + digits.log2 < -far then 0
  else if 0 ≤ exponent then f.nearest (digits * Nat.pow 10 exponent.toNat) 1
  else f.nearest digits (Nat.pow 10 (-exponent).toNat)

/-- A finite magnitude as a ratio. -/
def ratio (magnitude : Nat) : Nat × Nat :=
  let (m, e) := f.parts magnitude
  overPowerOfTwo m 1 (-e)

/-- The rounded product of two finite magnitudes. -/
def product (a b : Nat) : Nat :=
  f.nearest ((f.ratio a).1 * (f.ratio b).1) ((f.ratio a).2 * (f.ratio b).2)

/-- The rounded quotient of two finite magnitudes; the second must not be zero. -/
def quotient (a b : Nat) : Nat :=
  f.nearest ((f.ratio a).1 * (f.ratio b).2) ((f.ratio a).2 * (f.ratio b).1)

end FloatFormat

end EntitySql.Numeric
