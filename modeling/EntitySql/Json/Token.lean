import EntitySql.Text.Quoted

/-!
# Tokens of a JSON text

The lexical part of JSON.  A token keeps what the text says: a numeral its digits, a string its
characters and its escaped code units.  What a numeral or a string means is decided later, so that a
reader can skip a part whose meaning does not exist, such as a surrogate without its partner.

## Main definitions

* `Numeral`, `StringUnit`, `Token` : what the tokens keep.
* `tokens?` : the tokens of a text, if it is made of tokens and blanks.
-/

namespace EntitySql.Json

open Text

/-- A number as it is written. -/
structure Numeral where
  negative : Bool
  whole : List Char
  fraction : Option (List Char)
  exponent : Option (Bool × List Char)
deriving DecidableEq

/-- A part of a string: a character, or a code unit of sixteen bits from an escape. -/
inductive StringUnit where
  | char (c : Char)
  | codeUnit (n : Nat)
deriving DecidableEq

/-- A token. -/
inductive Token where
  | openObject
  | closeObject
  | openArray
  | closeArray
  | colon
  | comma
  | null
  | bool (b : Bool)
  | number (n : Numeral)
  | string (units : List StringUnit)
deriving DecidableEq

/-- The value of four hexadecimal digits. -/
def hex4? (a b c d : Char) : Option Nat := do
  let a ← hexValue? a
  let b ← hexValue? b
  let c ← hexValue? c
  let d ← hexValue? d
  some (((a * 16 + b) * 16 + c) * 16 + d)

/-- The character of a short escape. -/
def shortEscape? : Char → Option Char
  | '"' => some '"'
  | '\\' => some '\\'
  | '/' => some '/'
  | 'b' => some '\x08'
  | 'f' => some '\x0c'
  | 'n' => some '\n'
  | 'r' => some '\r'
  | 't' => some '\t'
  | _ => none

/-- The parts of a string behind its opening quote, and the text behind its closing quote. -/
def stringBody? : List Char → Option (List StringUnit × List Char)
  | [] => none
  | '"' :: rest => some ([], rest)
  | '\\' :: 'u' :: a :: b :: c :: d :: rest => do
      let n ← hex4? a b c d
      let (units, rest) ← stringBody? rest
      some (.codeUnit n :: units, rest)
  | '\\' :: e :: rest => do
      let c ← shortEscape? e
      let (units, rest) ← stringBody? rest
      some (.char c :: units, rest)
  | c :: rest =>
      if c.toNat < 0x20 ∨ c = '\\' then none
      else do
        let (units, rest) ← stringBody? rest
        some (.char c :: units, rest)

/-- The digits at the start of a text and the text behind them. -/
def digitRun (cs : List Char) : List Char × List Char :=
  (cs.takeWhile Char.isDigit, cs.dropWhile Char.isDigit)

/-- The fraction of a numeral, if there is one; a point must have a digit behind it. -/
def fractionPart? : List Char → Option (Option (List Char) × List Char)
  | '.' :: cs =>
      let (digits, rest) := digitRun cs
      if digits = [] then none else some (some digits, rest)
  | cs => some (none, cs)

/-- The sign of an exponent; the flag is set for minus. -/
def exponentSign : List Char → Bool × List Char
  | '-' :: cs => (true, cs)
  | '+' :: cs => (false, cs)
  | cs => (false, cs)

/-- The exponent of a numeral, if there is one; its mark must have a digit behind it. -/
def exponentPart? : List Char → Option (Option (Bool × List Char) × List Char)
  | [] => some (none, [])
  | c :: cs =>
      if c = 'e' ∨ c = 'E' then
        let (negative, rest) := exponentSign cs
        let (digits, rest) := digitRun rest
        if digits = [] then none else some (some (negative, digits), rest)
      else some (none, c :: cs)

/-- A numeral without its sign, and the text behind it.  A zero is followed by no digit. -/
def unsigned? (negative : Bool) (cs : List Char) : Option (Numeral × List Char) := do
  let (whole, rest) := digitRun cs
  if whole = [] ∨ (whole.head? = some '0' ∧ whole.length ≠ 1) then none
  else
    let (fraction, rest) ← fractionPart? rest
    let (exponent, rest) ← exponentPart? rest
    some (⟨negative, whole, fraction, exponent⟩, rest)

/-- The first token of a text that starts with none of the blanks, and the text behind it. -/
def token? : List Char → Option (Token × List Char)
  | '\x7b' :: rest => some (.openObject, rest)
  | '\x7d' :: rest => some (.closeObject, rest)
  | '[' :: rest => some (.openArray, rest)
  | ']' :: rest => some (.closeArray, rest)
  | ':' :: rest => some (.colon, rest)
  | ',' :: rest => some (.comma, rest)
  | 'n' :: 'u' :: 'l' :: 'l' :: rest => some (.null, rest)
  | 't' :: 'r' :: 'u' :: 'e' :: rest => some (.bool true, rest)
  | 'f' :: 'a' :: 'l' :: 's' :: 'e' :: rest => some (.bool false, rest)
  | '"' :: rest => (stringBody? rest).map fun p => (.string p.1, p.2)
  | '-' :: rest => (unsigned? true rest).map fun p => (.number p.1, p.2)
  | cs => (unsigned? false cs).map fun p => (.number p.1, p.2)

/-- The blanks of JSON. -/
def isJsonBlank (c : Char) : Bool :=
  c = ' ' || c = '\n' || c = '\t' || c = '\r'

/-- Reads tokens until the text ends; `fuel` bounds their number. -/
def tokensUpTo? : Nat → List Char → Option (List Token)
  | 0, cs => if cs.dropWhile isJsonBlank = [] then some [] else none
  | fuel + 1, cs =>
      match cs.dropWhile isJsonBlank with
      | [] => some []
      | c :: rest => do
          let (t, rest) ← token? (c :: rest)
          let ts ← tokensUpTo? fuel rest
          some (t :: ts)

/-- The tokens of a text, if it is made of tokens and blanks.  There are no more tokens than
characters. -/
def tokens? (cs : List Char) : Option (List Token) :=
  tokensUpTo? cs.length cs

end EntitySql.Json
