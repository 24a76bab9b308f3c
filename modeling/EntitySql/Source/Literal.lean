import EntitySql.Text.Identifier
import EntitySql.Text.Quoted

/-!
# Literals of the declaration language

Texts in quotes, single characters and numbers.  Nothing but the extent of a literal matters here,
so each reader returns the rest of the text behind it.  A literal may end with a suffix, which is a
word without a gap before it.

## Main definitions

* `afterWord?` : the rest behind a word.
* `QuotedRules` : what the three kinds of texts may hold.
* `afterQuoted?`, `afterRaw?`, `afterCharacter?` : the rest behind a text or a character.
* `afterFraction?`, `afterInteger?` : the rest behind a number.
* `afterLiteral?` : the rest behind any literal.
-/

namespace EntitySql.Source

open Text

/-- The rest of a text behind the word at its start. -/
def afterWord? : List Char → Option (List Char)
  | [] => none
  | c :: cs => if isIdentifierStart c then some (cs.dropWhile isIdentifierPart) else none

/-- The rest of a text behind the word at its start, or the text if there is none. -/
def afterSuffix (cs : List Char) : List Char :=
  (afterWord? cs).getD cs

/-! ### Texts and characters -/

/-- What a kind of texts may hold. -/
structure QuotedRules where
  /-- The characters that stand for themselves. -/
  plain : Char → Bool
  /-- The characters that may follow a backslash alone. -/
  escapes : List Char
  /-- The pairs of hexadecimal digits that may follow `\x`. -/
  code : Nat → Nat → Bool
  /-- The code points that may follow `\u` in braces, if there is such an escape. -/
  point : Option (Nat → Bool)

/-- A text of characters. -/
def characterRules : QuotedRules where
  plain _ := true
  escapes := ['n', 'r', 't', '\\', '\'', '"', '0']
  code high _ := high < 8
  point := some fun _ => true

/-- A text of bytes. -/
def byteRules : QuotedRules where
  plain c := c.toNat < 0x80
  escapes := ['n', 'r', 't', '\\', '\'', '"', '0']
  code _ _ := true
  point := none

/-- A text that ends with a zero, which it must not hold. -/
def terminatedRules : QuotedRules where
  plain c := c != '\x00'
  escapes := ['n', 'r', 't', '\\', '\'', '"']
  code high low := high != 0 || low != 0
  point := some (· != 0)

/-- A code point in up to six hexadecimal digits, and the rest behind the closing brace. -/
def codePoint? (digits value : Nat) : List Char → Option (Nat × List Char)
  | [] => none
  | c :: cs =>
      if c = '_' ∧ 0 < digits then codePoint? digits value cs
      else if c = '\x7d' ∧ 0 < digits then
        if value.isValidChar then some (value, cs) else none
      else
        match hexValue? c with
        | none => none
        | some d => if digits = 6 then none else codePoint? (digits + 1) (16 * value + d) cs

/-- The rest behind an escape whose backslash has been read. -/
def afterEscape? (rules : QuotedRules) : List Char → Option (List Char)
  | 'x' :: a :: b :: cs =>
      match hexValue? a, hexValue? b with
      | some high, some low => if rules.code high low then some cs else none
      | _, _ => none
  | 'u' :: '\x7b' :: cs =>
      match rules.point, codePoint? 0 0 cs with
      | some allowed, some (value, cs) => if allowed value then some cs else none
      | _, _ => none
  | c :: cs => if rules.escapes.contains c then some cs else none
  | [] => none

/-- The rest behind the blanks that follow a backslash at the end of a line. -/
def afterLineBreak? : List Char → Option (List Char)
  | '\r' :: '\n' :: cs => afterLineBreak? cs
  | '\r' :: _ => none
  | c :: cs => if c = ' ' ∨ c = '\t' ∨ c = '\n' then afterLineBreak? cs else some (c :: cs)
  | [] => none

/-- The rest behind a text whose opening quote has been read, with a bound for its length. -/
def afterQuoted? (rules : QuotedRules) : Nat → List Char → Option (List Char)
  | 0, _ => none
  | _ + 1, [] => none
  | _ + 1, '"' :: cs => some (afterSuffix cs)
  | n + 1, '\r' :: '\n' :: cs => afterQuoted? rules n cs
  | _ + 1, '\r' :: _ => none
  | n + 1, '\\' :: c :: cs =>
      let rest? :=
        if c = '\n' ∨ c = '\r' then afterLineBreak? (c :: cs) else afterEscape? rules (c :: cs)
      rest?.bind (afterQuoted? rules n)
  | n + 1, c :: cs => if rules.plain c then afterQuoted? rules n cs else none

/-- The rest behind a text without escapes, whose closing quote is followed by `count` hashes. -/
def afterRawContent? (rules : QuotedRules) (count : Nat) : List Char → Option (List Char)
  | [] => none
  | '\r' :: '\n' :: cs => afterRawContent? rules count cs
  | '\r' :: _ => none
  | c :: cs =>
      if c = '"' ∧ cs.take count = List.replicate count '#' then some (afterSuffix (cs.drop count))
      else if rules.plain c then afterRawContent? rules count cs
      else none

/-- The rest behind a text without escapes, from the hashes before its opening quote. -/
def afterRaw? (rules : QuotedRules) (cs : List Char) : Option (List Char) :=
  let count := (cs.takeWhile (· = '#')).length
  match cs.drop count with
  | '"' :: content => if count ≤ 255 then afterRawContent? rules count content else none
  | _ => none

/-- The rest behind a single character whose opening quote has been read. -/
def afterCharacter? (rules : QuotedRules) (cs : List Char) : Option (List Char) :=
  let rest? :=
    match cs with
    | '\\' :: cs => afterEscape? rules cs
    | c :: cs => if rules.plain c then some cs else none
    | [] => none
  match rest? with
  | some ('\'' :: rest) => some (afterSuffix rest)
  | _ => none

/-! ### Numbers -/

/-- A digit, or the mark that sets digits apart. -/
def isNumeral (c : Char) : Bool :=
  c.isDigit || c == '_'

/-- The rest behind the suffix of a number, which must not run into a word. -/
def afterNumberSuffix? (cs : List Char) : Option (List Char) :=
  let rest := afterSuffix cs
  match rest with
  | c :: _ => if isIdentifierPart c then none else some rest
  | [] => some []

/-- The rest behind the exponent of a number. -/
def afterExponent? (signed : Bool) : List Char → Option (List Char)
  | '_' :: cs => afterExponent? signed cs
  | c :: cs =>
      if c = '+' ∨ c = '-' then if signed then none else afterExponent? true cs
      else if c.isDigit then some (cs.dropWhile isNumeral)
      else none
  | [] => none

/-- The rest behind a number with a point or an exponent.  A point that is followed by another
point or by a word does not belong to the number. -/
def afterFraction? (cs : List Char) : Option (List Char) := do
  let first ← cs.head?
  if !first.isDigit then none
  let whole := cs.dropWhile isNumeral
  let (rest, dotted) ←
    match whole with
    | '.' :: [] => some ([], true)
    | '.' :: c :: more =>
        if c = '.' ∨ isIdentifierStart c then none
        else some ((c :: more).dropWhile isNumeral, true)
    | _ => some (whole, false)
  let plain? := if dotted then some rest else none
  let digits ←
    match rest with
    | c :: more =>
        if c = 'e' ∨ c = 'E' then (afterExponent? false more).or plain? else plain?
    | [] => plain?
  afterNumberSuffix? digits

/-- The rest behind the digits of a whole number.  A digit that the base does not have ends the
number if it is a letter, and is an error otherwise. -/
def afterDigits? (base : Nat) (started : Bool) : List Char → Option (List Char)
  | [] => if started then some [] else none
  | c :: cs =>
      if c = '_' then if !started && base = 10 then none else afterDigits? base started cs
      else
        match hexValue? c with
        | some d =>
            if d < base then afterDigits? base true cs
            else if c.isDigit then none
            else if started then some (c :: cs)
            else none
        | none => if started then some (c :: cs) else none

/-- The rest behind a whole number. -/
def afterInteger? (cs : List Char) : Option (List Char) :=
  let rest? :=
    match cs with
    | '0' :: 'x' :: cs => afterDigits? 16 false cs
    | '0' :: 'o' :: cs => afterDigits? 8 false cs
    | '0' :: 'b' :: cs => afterDigits? 2 false cs
    | cs => afterDigits? 10 false cs
  rest?.bind afterNumberSuffix?

/-! ### All literals -/

/-- The rest behind a text, a character or a byte. -/
def afterText? : List Char → Option (List Char)
  | '"' :: cs => afterQuoted? characterRules (cs.length + 1) cs
  | 'r' :: cs => afterRaw? characterRules cs
  | 'b' :: '"' :: cs => afterQuoted? byteRules (cs.length + 1) cs
  | 'b' :: 'r' :: cs => afterRaw? byteRules cs
  | 'c' :: '"' :: cs => afterQuoted? terminatedRules (cs.length + 1) cs
  | 'c' :: 'r' :: cs => afterRaw? terminatedRules cs
  | 'b' :: '\'' :: cs => afterCharacter? byteRules cs
  | '\'' :: cs => afterCharacter? characterRules cs
  | _ => none

/-- The rest behind a literal. -/
def afterLiteral? (cs : List Char) : Option (List Char) :=
  ((afterText? cs).or (afterFraction? cs)).or (afterInteger? cs)

end EntitySql.Source
