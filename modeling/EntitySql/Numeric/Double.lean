import EntitySql.Numeric.IntegerType
import EntitySql.Numeric.FloatFormat

/-!
# Doubles and singles

Floating-point numbers of 64 and 32 bits, kept as their bits.  Equality of the structures is
equality of bits; `Double.agrees` is numerical equality, for which a NaN differs from itself and
the two zeros are equal.

## Main definitions

* `Double`, `Single` : the numbers, as bits.
* `Double.agrees` : numerical equality.
* `Double.ofInt`, `Double.toInt?` : from an integer, rounded, and back, if the number is integral.
* `Double.saturated` : the integer clamped to the signed 64-bit range.
* `Double.toSingle` : rounding to the narrower format.
-/

namespace EntitySql.Numeric

/-- A floating-point number of 64 bits. -/
structure Double where
  bits : UInt64
deriving DecidableEq

/-- A floating-point number of 32 bits. -/
structure Single where
  bits : UInt32
deriving DecidableEq

/-- The single with a given sign and magnitude. -/
def Single.ofMagnitude (negative : Bool) (magnitude : Nat) : Single :=
  ⟨UInt32.ofNat (magnitude + if negative then FloatFormat.single.signWeight else 0)⟩

namespace Double

/-- What the bits stand for. -/
def datum (x : Double) : FloatFormat.Datum :=
  FloatFormat.double.datum x.bits.toNat

/-- Whether the sign bit is set. -/
def isNegative (x : Double) : Bool :=
  FloatFormat.double.signWeight ≤ x.bits.toNat

/-- The bits without the sign. -/
def magnitude (x : Double) : Nat :=
  x.bits.toNat % FloatFormat.double.signWeight

/-- Whether the bits stand for no number. -/
def isNaN (x : Double) : Bool :=
  FloatFormat.double.infinity < x.magnitude

/-- Whether the bits stand for one of the two infinities. -/
def isInfinite (x : Double) : Bool :=
  x.magnitude = FloatFormat.double.infinity

/-- The number with a given sign and magnitude. -/
def ofMagnitude (negative : Bool) (magnitude : Nat) : Double :=
  ⟨UInt64.ofNat (magnitude + if negative then FloatFormat.double.signWeight else 0)⟩

/-- Positive zero. -/
def zero : Double :=
  ofMagnitude false 0

/-- Numerical equality. -/
def agrees (x y : Double) : Bool :=
  !x.isNaN && !y.isNaN && (x.bits == y.bits || (x.magnitude == 0 && y.magnitude == 0))

/-- The number nearest to an integer. -/
def ofInt (n : Int) : Double :=
  ofMagnitude (n < 0) (FloatFormat.double.nearest n.natAbs 1)

/-- The number nearest to a decimal one, with a sign of its own. -/
def ofDecimal (negative : Bool) (digits : Nat) (exponent : Int) : Double :=
  ofMagnitude negative (FloatFormat.double.ofDecimal digits exponent)

/-- The exact value of a number that is finite and integral. -/
def toInt? (x : Double) : Option Int :=
  match x.datum with
  | .finite negative m e =>
      let (n, d) := overPowerOfTwo m 1 (-e)
      if n % d = 0 then some (if negative then -(n / d : Nat) else (n / d : Nat)) else none
  | _ => none

private theorem inRange_clamped (n : Int) : IntegerType.int64.InRange
    (max IntegerType.int64.least (min IntegerType.int64.greatest n)) := by
  simp only [IntegerType.InRange, IntegerType.least, IntegerType.greatest]
  omega

/-- The integer of 64 bits nearest to an integer. -/
def saturated (n : Int) : IntegerType.int64.Carrier :=
  ⟨max IntegerType.int64.least (min IntegerType.int64.greatest n), inRange_clamped n⟩

/-- The nearest number of 32 bits.  What is not a number keeps its sign and the leading bits of its
fraction. -/
def toSingle (x : Double) : Single :=
  let narrow : Nat :=
    match x.datum with
    | .notANumber =>
        let kept := x.magnitude % FloatFormat.double.unit / Nat.pow 2 29
        FloatFormat.single.infinity + kept % (FloatFormat.single.unit / 2)
          + FloatFormat.single.unit / 2
    | .infinite _ => FloatFormat.single.infinity
    | .finite _ m e =>
        let (n, d) := overPowerOfTwo m 1 (-e)
        FloatFormat.single.nearest n d
  .ofMagnitude x.isNegative narrow

end Double

namespace Single

/-- What the bits stand for. -/
def datum (x : Single) : FloatFormat.Datum :=
  FloatFormat.single.datum x.bits.toNat

/-- Positive zero. -/
def zero : Single :=
  ofMagnitude false 0

end Single

end EntitySql.Numeric
