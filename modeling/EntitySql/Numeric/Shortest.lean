import EntitySql.Numeric.FloatFormat

/-!
# The shortest decimal of a floating-point number

The numbers that round to a given floating-point number form an interval around it.  Its ends
belong to it exactly if the mantissa is even; below a power of two it is half as wide.  The
shortest decimal is the point of the coarsest decimal grid that meets the interval.  If a point of
a grid lies in the interval, so does one of the two neighbours of the number on that grid, so only
these are tested; of two hits the nearer one is taken.

## Main definitions

* `Decimal` : an integer times a power of ten.
* `TieBreak` : which of two equally near points is taken.
* `Rounding` : the interval of a number, in quarters of its last place.
* `shortest` : the shortest decimal of a positive finite number.
-/

namespace EntitySql.Numeric

/-- The number `digits * 10 ^ exponent`. -/
structure Decimal where
  digits : Nat
  exponent : Int
deriving DecidableEq

/-- Which of two equally near points is taken: the greater one, or the even one. -/
inductive TieBreak where
  | up
  | even
deriving DecidableEq

/-- A positive number and the interval that rounds to it, as multiples of `2 ^ exponent`. -/
structure Rounding where
  low : Nat
  center : Nat
  high : Nat
  closed : Bool
  exponent : Int

/-- The interval of the number `mantissa * 2 ^ exponent`.  Its unit is a quarter of the last
place. -/
def FloatFormat.rounding (f : FloatFormat) (mantissa : Nat) (exponent : Int) : Rounding where
  low := 4 * mantissa - if mantissa = f.unit ∧ f.leastExponent < exponent then 1 else 2
  center := 4 * mantissa
  high := 4 * mantissa + 2
  closed := mantissa % 2 = 0
  exponent := exponent - 2

namespace Rounding

/-- A power as a ratio. -/
private def powerRatio (base : Nat) (exponent : Int) : Nat × Nat :=
  if 0 ≤ exponent then (base.pow exponent.toNat, 1) else (1, base.pow (-exponent).toNat)

/-- The point of the grid `10 ^ place` that stands for the number, if the grid meets the
interval. -/
def onGrid? (r : Rounding) (tie : TieBreak) (place : Int) : Option Nat :=
  let (un, ud) := powerRatio 2 r.exponent
  let (gn, gd) := powerRatio 10 place
  let unit := un * gd
  let grid := gn * ud
  let below := r.center * unit / grid
  let above := below + 1
  let inside (x : Nat) : Bool :=
    if r.closed then r.low * unit ≤ x * grid && x * grid ≤ r.high * unit
    else r.low * unit < x * grid && x * grid < r.high * unit
  let down := r.center * unit - below * grid
  let up := above * grid - r.center * unit
  match inside below && below != 0, inside above with
  | true, true =>
      if down < up then some below
      else if up < down then some above
      else match tie with
        | .up => some above
        | .even => some (below + below % 2)
  | true, false => some below
  | false, true => some above
  | false, false => none

/-- A power of ten above the number, by its exponent. -/
def topPlace (r : Rounding) : Int :=
  (r.exponent + r.center.log2 + 1) * 30103 / 100000 + 1

/-- The shortest decimal of the interval.  Twenty grids below the top one are enough for both
formats, which need at most seventeen digits. -/
def shortest (r : Rounding) (tie : TieBreak) : Decimal :=
  let places := (List.range 20).map fun (i : Nat) => r.topPlace - (i : Int)
  match places.findSome? fun p => (r.onGrid? tie p).map fun n => (⟨n, p⟩ : Decimal) with
  | some d => d
  | none => ⟨r.center, r.exponent⟩

end Rounding

end EntitySql.Numeric
