import EntitySql.Text.Decimal
import EntitySql.Numeric.Double

/-!
# Reading floating-point numbers

A number is an optional sign, then digits with an optional fraction and an optional exponent, or
one of the words for infinity and for what is not a number, in any case.  At least one digit must
stand before or behind the point.  The value is rounded once, to the nearest number of the format.

## Main definitions

* `Double.ofText?`, `Single.ofText?` : the number of a format that a text denotes.
-/

namespace EntitySql.Numeric

open Text

/-- Splits an optional sign off; the flag says whether it was a minus. -/
def splitSign : List Char → Bool × List Char
  | '-' :: cs => (true, cs)
  | '+' :: cs => (false, cs)
  | cs => (false, cs)

/-- The exponent at the end of a numeral: nothing, or a mark, an optional sign and digits. -/
def exponentPart? : List Char → Option Int
  | [] => some 0
  | c :: cs =>
      if c = 'e' ∨ c = 'E' then
        let (negative, digits) := splitSign cs
        (natural? digits).map fun n => if negative then -(n : Int) else n
      else none

/-- The value of an unsigned numeral as digits and an exponent of ten. -/
def unsignedDecimal? (cs : List Char) : Option (Nat × Int) :=
  let whole := cs.takeWhile Char.isDigit
  let (fraction, rest) :=
    match cs.dropWhile Char.isDigit with
    | '.' :: rest => (rest.takeWhile Char.isDigit, rest.dropWhile Char.isDigit)
    | rest => ([], rest)
  if whole = [] ∧ fraction = [] then none
  else (exponentPart? rest).map fun e => (ofDigits (whole ++ fraction), e - fraction.length)

/-- The magnitude that an unsigned numeral or one of the words denotes in a format. -/
def unsignedMagnitude? (f : FloatFormat) (cs : List Char) : Option Nat :=
  let word := String.ofList (cs.map Char.toLower)
  if word = "inf" ∨ word = "infinity" then some f.infinity
  else if word = "nan" then some f.quietNaN
  else (unsignedDecimal? cs).map fun d => f.ofDecimal d.1 d.2

/-- The double that a text denotes. -/
def Double.ofText? (cs : List Char) : Option Double :=
  let (negative, rest) := splitSign cs
  (unsignedMagnitude? .double rest).map (Double.ofMagnitude negative)

/-- The single that a text denotes. -/
def Single.ofText? (cs : List Char) : Option Single :=
  let (negative, rest) := splitSign cs
  (unsignedMagnitude? .single rest).map (Single.ofMagnitude negative)

end EntitySql.Numeric
