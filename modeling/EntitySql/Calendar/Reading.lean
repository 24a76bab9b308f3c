import EntitySql.Text.Blank
import EntitySql.Calendar.Text

/-!
# Reading dates and timestamps

Two notations are read.  The *loose* one allows blanks before every number and before every hyphen,
colon and `T`, and one or two digits for months, days and clock parts.  The *strict* one of RFC 3339
has a fixed number of digits and ends with an offset from UTC.

## Main definitions

* `Date.ofText?` : a date in the loose notation.
* `Timestamp.ofText?` : a date, `T` and a time in the loose notation.
* `Timestamp.ofRfc3339?` : a timestamp in the strict notation, moved to UTC.

Every reader of a part returns the part and the text behind it.
-/

namespace EntitySql.Calendar

open EntitySql.Text

/-- What a reader of a part returns: the part and the rest of the text. -/
abbrev Reader (α : Type) : Type :=
  List Char → Option (α × List Char)

/-- Reads one given character. -/
def mark (c : Char) : Reader Unit
  | [] => none
  | d :: rest => if d = c then some ((), rest) else none

/-- Reads a number of at least `least` and at most `limit` digits. -/
def number (least limit : Nat) : Reader Nat := fun cs =>
  let (digits, rest) := spanDigits limit cs
  if digits.length < least then none else some (ofDigits digits, rest)

/-- Reads a number with any count of digits, but at least one. -/
def longNumber : Reader Nat := fun cs =>
  number 1 cs.length cs

/-- The fraction of a second in nanoseconds, if there is one.  Digits behind the ninth are read and
dropped. -/
def fraction : Reader Nat
  | '.' :: cs =>
      let (digits, rest) := spanDigits 9 cs
      if digits = [] then none
      else some (ofDigits digits * Nat.pow 10 (9 - digits.length), rest.dropWhile Char.isDigit)
  | cs => some (0, cs)

/-! ### The loose notation -/

/-- Blanks, then a mark. -/
def looseMark (c : Char) : Reader Unit := fun cs =>
  mark c (trimLeft cs)

/-- Blanks, then a number of one or two digits. -/
def looseNumber : Reader Nat := fun cs =>
  number 1 2 (trimLeft cs)

/-- Blanks, then a year: up to four digits, or a sign and any count of digits. -/
def looseYear : Reader Int := fun cs =>
  match trimLeft cs with
  | '-' :: rest => (longNumber rest).map fun p => (-(p.1 : Int), p.2)
  | '+' :: rest => (longNumber rest).map fun p => ((p.1 : Int), p.2)
  | rest => (number 1 4 rest).map fun p => ((p.1 : Int), p.2)

/-- A date, and the text behind it. -/
def looseDate : Reader Date := fun cs => do
  let (year, cs) ← looseYear cs
  let ((), cs) ← looseMark '-' cs
  let (month, cs) ← looseNumber cs
  let ((), cs) ← looseMark '-' cs
  let (day, cs) ← looseNumber cs
  let date ← Date.ofYmd? year month day
  some (date, cs)

/-- A time of day, and the text behind it. -/
def looseTime : Reader TimeOfDay := fun cs => do
  let (hour, cs) ← looseNumber cs
  let ((), cs) ← looseMark ':' cs
  let (minute, cs) ← looseNumber cs
  let ((), cs) ← looseMark ':' cs
  let (second, cs) ← looseNumber cs
  let (nanosecond, cs) ← fraction cs
  let time ← TimeOfDay.ofParts? hour minute second nanosecond
  some (time, cs)

/-- The part that a reader finds, if only blanks follow it. -/
def whole? {α : Type} (reader : Reader α) (cs : List Char) : Option α := do
  let (part, rest) ← reader cs
  if trimLeft rest = [] then some part else none

/-- The date that a text denotes in the loose notation. -/
def Date.ofText? (cs : List Char) : Option Date :=
  whole? looseDate cs

/-- The timestamp that a text denotes in the loose notation. -/
def Timestamp.ofText? (cs : List Char) : Option Timestamp :=
  whole? (fun cs => do
    let (date, cs) ← looseDate cs
    let ((), cs) ← looseMark 'T' cs
    let (time, cs) ← looseTime cs
    some (⟨date, time⟩, cs)) cs

/-! ### The strict notation -/

/-- A number of exactly `count` digits. -/
def strictNumber (count : Nat) : Reader Nat :=
  number count count

/-- A date with four, two and two digits. -/
def strictDate : Reader Date := fun cs => do
  let (year, cs) ← strictNumber 4 cs
  let ((), cs) ← mark '-' cs
  let (month, cs) ← strictNumber 2 cs
  let ((), cs) ← mark '-' cs
  let (day, cs) ← strictNumber 2 cs
  let date ← Date.ofYmd? year month day
  some (date, cs)

/-- A time with two digits for each part, and a fraction. -/
def strictTime : Reader TimeOfDay := fun cs => do
  let (hour, cs) ← strictNumber 2 cs
  let ((), cs) ← mark ':' cs
  let (minute, cs) ← strictNumber 2 cs
  let ((), cs) ← mark ':' cs
  let (second, cs) ← strictNumber 2 cs
  let (nanosecond, cs) ← fraction cs
  let time ← TimeOfDay.ofParts? hour minute second nanosecond
  some (time, cs)

/-- What stands between date and time: a `T` of either case, or a space. -/
def strictSeparator : Reader Unit
  | 'T' :: rest | 't' :: rest | ' ' :: rest => some ((), rest)
  | _ => none

/-- The sign of an offset: plus, hyphen, or the minus sign U+2212; the flag is set for minus. -/
def offsetSign : Reader Bool
  | '+' :: rest => some (false, rest)
  | '-' :: rest | '\u2212' :: rest => some (true, rest)
  | _ => none

/-- An offset from UTC in minutes: the letter Z, or a sign, hours and minutes. -/
def offset : Reader Int
  | 'Z' :: rest | 'z' :: rest => some (0, rest)
  | cs => do
      let (negative, cs) ← offsetSign cs
      let (hours, cs) ← strictNumber 2 cs
      let ((), cs) ← mark ':' cs
      let (minutes, cs) ← strictNumber 2 cs
      if hours < 24 ∧ minutes < 60 then
        let total : Int := (hours * 60 + minutes : Nat)
        some (if negative then -total else total, cs)
      else none

/-- The timestamp in UTC that a text denotes in the strict notation. -/
def Timestamp.ofRfc3339? (cs : List Char) : Option Timestamp := do
  let (date, cs) ← strictDate cs
  let ((), cs) ← strictSeparator cs
  let (time, cs) ← strictTime cs
  let (minutes, cs) ← offset cs
  if cs = [] then Timestamp.shiftMinutes? ⟨date, time⟩ (-minutes) else none

end EntitySql.Calendar
