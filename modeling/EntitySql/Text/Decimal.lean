/-!
# Decimal numerals

Natural numbers and integers as decimal digits, and the digits read back.  Everything works on
lists of characters; a `String` appears only where a text leaves the library.

## Main definitions

* `numeral`, `signedNumeral` : the digits of a number, without leading zeros.
* `padded` : the digits filled up with zeros to a least width.
* `ofDigits` : the number that a run of digits denotes.
* `spanDigits` : the digits that a text starts with, at most a given number of them.
-/

namespace EntitySql.Text

/-- The character of a digit below ten. -/
def digitChar (d : Nat) : Char :=
  Char.ofNat ('0'.toNat + d)

/-- The number that an ASCII digit denotes. -/
def digitValue (c : Char) : Nat :=
  c.toNat - '0'.toNat

/-- The decimal digits of `n`, without leading zeros; zero is one digit. -/
def numeral (n : Nat) : List Char :=
  if n < 10 then [digitChar n] else numeral (n / 10) ++ [digitChar (n % 10)]

/-- The decimal digits of `n`, with zeros in front of them up to `width`. -/
def padded (width n : Nat) : List Char :=
  List.replicate (width - (numeral n).length) '0' ++ numeral n

/-- The decimal digits of an integer, after a minus sign if it is negative. -/
def signedNumeral (n : Int) : List Char :=
  if n < 0 then '-' :: numeral n.natAbs else numeral n.natAbs

/-- Continues reading digits behind a number already read. -/
def ofDigitsFrom : Nat → List Char → Nat
  | n, [] => n
  | n, c :: cs => ofDigitsFrom (10 * n + digitValue c) cs

/-- The number that a run of digits denotes; no digits denote zero. -/
def ofDigits (cs : List Char) : Nat :=
  ofDigitsFrom 0 cs

/-- The digits at the start of a text, at most `limit` of them, and what follows. -/
def spanDigits : Nat → List Char → List Char × List Char
  | 0, cs => ([], cs)
  | _ + 1, [] => ([], [])
  | limit + 1, c :: cs =>
      if c.isDigit then
        let (digits, rest) := spanDigits limit cs
        (c :: digits, rest)
      else ([], c :: cs)

/-- Reads a text that consists of digits and nothing else. -/
def natural? (cs : List Char) : Option Nat :=
  if cs ≠ [] ∧ cs.all Char.isDigit then some (ofDigits cs) else none

/-- Reads a numeral with an optional sign; a minus sign only where `signed` allows it. -/
def integer? (signed : Bool) : List Char → Option Int
  | '+' :: cs => (natural? cs).map Int.ofNat
  | '-' :: cs => if signed then (natural? cs).map fun n => -Int.ofNat n else none
  | cs => (natural? cs).map Int.ofNat

end EntitySql.Text
