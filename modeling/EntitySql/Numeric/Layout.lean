import EntitySql.Text.Decimal
import EntitySql.Numeric.Double
import EntitySql.Numeric.Shortest

/-!
# Texts of floating-point numbers

A number is written with its shortest digits.  A layout says when the digits stand in positional
notation, whether an integral number ends in a fraction of zero, and which way a tie between two
shortest decimals goes.

## Main definitions

* `FloatLayout` : the choices of a notation.
* `FloatLayout.plain` : positional always, integral numbers without a fraction.
* `FloatLayout.scientific` : positional for decimal exponents from -5 to 15, always with a
  fraction, and otherwise an exponent with a sign.
* `Double.text` : the text of a number, with names for what is not finite.
* `Single.widen` : a number of 32 bits as the double nearest to its text.
-/

namespace EntitySql.Numeric

open Text

/-- The choices of a notation.  `positional` says for which decimal exponents of the leading digit
the positional notation is used. -/
structure FloatLayout where
  tie : TieBreak
  positional : Int → Bool
  keepsFraction : Bool

namespace FloatLayout

/-- Always positional; integral numbers have no fraction. -/
def plain : FloatLayout :=
  ⟨.up, fun _ => true, false⟩

/-- Positional for exponents from -5 to 15; integral numbers keep a fraction of zero. -/
def scientific : FloatLayout :=
  ⟨.even, fun e => -5 ≤ e && e ≤ 15, true⟩

variable (layout : FloatLayout)

/-- Digits with a decimal point behind the first `point` of them; zeros fill the gap. -/
def pointed (digits : List Char) (point : Int) : List Char :=
  let missing := (point - digits.length).toNat
  if 0 < point then
    if digits.length ≤ point.toNat then
      digits ++ List.replicate missing '0' ++ if layout.keepsFraction then ['.', '0'] else []
    else digits.take point.toNat ++ '.' :: digits.drop point.toNat
  else ['0', '.'] ++ List.replicate (-point).toNat '0' ++ digits

/-- The first digit, the others as a fraction, and the exponent with its sign. -/
def exponential (digits : List Char) (exponent : Int) : List Char :=
  let fraction := if digits.length = 1 then [] else '.' :: digits.drop 1
  let sign := if exponent < 0 then '-' else '+'
  digits.take 1 ++ fraction ++ ['e', sign] ++ numeral exponent.natAbs

/-- The text of a decimal. -/
def decimal (d : Decimal) : List Char :=
  let digits := numeral d.digits
  let exponent := d.exponent + digits.length - 1
  if layout.positional exponent then layout.pointed digits (exponent + 1)
  else exponential digits exponent

/-- The text of what bits of a format stand for. -/
def write (f : FloatFormat) : FloatFormat.Datum → List Char
  | .notANumber => ['N', 'a', 'N']
  | .infinite negative => if negative then ['-', 'i', 'n', 'f'] else ['i', 'n', 'f']
  | .finite negative mantissa exponent =>
      let sign := if negative then ['-'] else []
      if mantissa = 0 then sign ++ layout.decimal ⟨0, 0⟩
      else sign ++ layout.decimal ((f.rounding mantissa exponent).shortest layout.tie)

end FloatLayout

/-- The text of a double in positional notation. -/
def Double.text (x : Double) : String :=
  String.ofList (FloatLayout.plain.write .double x.datum)

/-- The double nearest to the shortest decimal of a single, so that texts stay the same. -/
def Single.widen (x : Single) : Double :=
  match x.datum with
  | .notANumber => .ofMagnitude false FloatFormat.double.quietNaN
  | .infinite negative => .ofMagnitude negative FloatFormat.double.infinity
  | .finite negative mantissa exponent =>
      if mantissa = 0 then .ofMagnitude negative 0
      else
        let d := (FloatFormat.single.rounding mantissa exponent).shortest FloatLayout.plain.tie
        .ofDecimal negative d.digits d.exponent

end EntitySql.Numeric
