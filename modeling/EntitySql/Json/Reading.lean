import EntitySql.Sorted
import EntitySql.Json.Basic
import EntitySql.Json.Document
import EntitySql.Text.Decimal

/-!
# The value of a JSON document

A document has a value if its strings are made of characters, its numbers are in range and it is
nested at most 127 deep.

A number without fraction and exponent is an integer if it fits into 64 bits, signed or unsigned;
minus zero is a double.  Any other number is a double.  It is computed from a significand of 64
bits, which takes digits as long as they fit, and one rounded multiplication or division by a power
of ten; below the smallest power, divisions by `10 ^ 308` come first.

## Main definitions

* `textOf?` : the text that the parts of a string denote.
* `Json.ofNumeral?` : the value of a number.
* `Json.ofDocument?`, `Json.ofText?` : the value of a document, and of a text.
-/

namespace EntitySql.Json

open Numeric Text

/-! ### Strings -/

/-- Whether a code unit is the first half of a surrogate pair. -/
def isHighSurrogate (n : Nat) : Bool := 0xD800 ≤ n && n ≤ 0xDBFF

/-- Whether a code unit is the second half of a surrogate pair. -/
def isLowSurrogate (n : Nat) : Bool := 0xDC00 ≤ n && n ≤ 0xDFFF

/-- The characters that the parts of a string denote; surrogates must come in pairs of escapes. -/
def textOf? : List StringUnit → Option (List Char)
  | [] => some []
  | .char c :: rest => (textOf? rest).map (c :: ·)
  | .codeUnit a :: .codeUnit b :: rest =>
      if isHighSurrogate a then
        if isLowSurrogate b then
          (textOf? rest).map (Char.ofNat (0x10000 + (a - 0xD800) * 0x400 + (b - 0xDC00)) :: ·)
        else none
      else if isLowSurrogate a then none
      else (textOf? (.codeUnit b :: rest)).map (Char.ofNat a :: ·)
  | .codeUnit a :: rest =>
      if isHighSurrogate a || isLowSurrogate a then none
      else (textOf? rest).map (Char.ofNat a :: ·)

/-! ### Numbers -/

/-- Appends digits to a significand as long as it stays below `2 ^ 64`; the second result counts the
digits that did not fit. -/
def significand : Nat → List Char → Nat × Nat
  | n, [] => (n, 0)
  | n, c :: cs =>
      if 10 * n + digitValue c < 2 ^ 64 then significand (10 * n + digitValue c) cs
      else (n, cs.length + 1)

/-- The magnitude of the double nearest to a power of ten. -/
def powerOfTen (e : Nat) : Nat :=
  FloatFormat.double.nearest (Nat.pow 10 e) 1

/-- A magnitude divided by `10 ^ e`; steps of `10 ^ 308` come first, until zero is reached. -/
def dividedByTens (magnitude e : Nat) : Nat :=
  if e ≤ 308 then FloatFormat.double.quotient magnitude (powerOfTen e)
  else if magnitude = 0 then 0
  else dividedByTens (FloatFormat.double.quotient magnitude (powerOfTen 308)) (e - 308)
termination_by e

/-- The magnitude of `n * 10 ^ e`, if it is finite. -/
def scaled? (n : Nat) (e : Int) : Option Nat :=
  let magnitude := FloatFormat.double.nearest n 1
  if e < 0 then some (dividedByTens magnitude e.natAbs)
  else if n = 0 then some 0
  else if 308 < e then none
  else
    let product := FloatFormat.double.product magnitude (powerOfTen e.natAbs)
    if product = FloatFormat.double.infinity then none else some product

/-- The value of a number that is written without fraction and exponent, from its significand. -/
def ofInteger (negative : Bool) (n : Nat) : Json :=
  if !negative then .integer n
  else if n = 0 ∨ Nat.pow 2 63 < n then .real (.ofMagnitude true (FloatFormat.double.nearest n 1))
  else .integer (-(n : Int))

/-- The value of a number, if it is in range. -/
def ofNumeral? (n : Numeral) : Option Json :=
  let (whole, dropped) := significand 0 n.whole
  if dropped = 0 ∧ n.fraction = none ∧ n.exponent = none then some (ofInteger n.negative whole)
  else
    let fraction := n.fraction.getD []
    let (digits, unused) := significand whole fraction
    let shift : Int := dropped - (fraction.length - unused : Nat)
    let exponent : Int :=
      match n.exponent with
      | none => 0
      | some (negative, e) => if negative then -(ofDigits e : Int) else ofDigits e
    (scaled? digits (shift + exponent)).map fun m => .real (.ofMagnitude n.negative m)

/-! ### Documents -/

mutual

/-- The value of a document that may nest `depth` deep. -/
def ofDocumentWithin? (depth : Nat) : Document → Option Json
  | .null => some .null
  | .bool b => some (.bool b)
  | .number n => ofNumeral? n
  | .string units => (textOf? units).map fun cs => .string (String.ofList cs)
  | .array items =>
      if depth = 0 then none else (ofItems? (depth - 1) items).map .array
  | .object members =>
      if depth = 0 then none else (ofMembers? (depth - 1) members []).map .object

/-- The values of the items of an array. -/
def ofItems? (depth : Nat) : List Document → Option (List Json)
  | [] => some []
  | d :: rest => do
      let j ← ofDocumentWithin? depth d
      let js ← ofItems? depth rest
      some (j :: js)

/-- The values of the members of an object, put into a sorted list one after the other, so that the
last of several members with one name stays. -/
def ofMembers? (depth : Nat) :
    List (List StringUnit × Document) → List (String × Json) → Option (List (String × Json))
  | [], sorted => some sorted
  | (name, d) :: rest, sorted => do
      let name ← textOf? name
      let j ← ofDocumentWithin? depth d
      ofMembers? depth rest (insertByName (String.ofList name) j sorted)

end

/-- The greatest depth to which arrays and objects may be nested. -/
def greatestDepth : Nat := 127

/-- The value of a document. -/
def ofDocument? (d : Document) : Option Json :=
  ofDocumentWithin? greatestDepth d

/-- The value of a text. -/
def ofText? (s : String) : Option Json :=
  (Document.ofText? s.toList).bind ofDocument?

end EntitySql.Json
