import EntitySql.Source.Literal
import EntitySql.Source.Token
import EntitySql.Text.Blank

/-!
# Lexemes

A text of the declaration language is cut into lexemes: tokens without content, and the marks of
brackets.  Blanks and comments between them are dropped.  A comment that documents something stands
for an attribute with its text.  Then the lexemes between matching brackets become the content of
one token.

## Main definitions

* `Lexeme` : a token without content, or a mark of brackets.
* `lexemes?` : the lexemes of a text.
* `nest` : the tokens that lexemes make.
* `tokens?` : the tokens of a text.
-/

namespace EntitySql.Source

open Text

/-- A part of a text. -/
inductive Lexeme where
  | token (t : Token)
  | opening (d : Delimiter)
  | closing (d : Delimiter)

/-- A character between tokens: a blank, or one of the two marks for the direction of writing. -/
def isGap (c : Char) : Bool :=
  isBlank c || c == Char.ofNat 0x200E || c == Char.ofNat 0x200F

/-! ### Comments -/

/-- The rest behind a comment in brackets, after its opening marks at some depth. -/
def afterComment? : Nat → List Char → Option (List Char)
  | depth, '/' :: '*' :: cs => afterComment? (depth + 1) cs
  | depth, '*' :: '/' :: cs => if depth ≤ 1 then some cs else afterComment? (depth - 1) cs
  | depth, _ :: cs => afterComment? depth cs
  | _, [] => none

/-- Whether every carriage return is followed by a line feed. -/
def hasWholeLineBreaks : List Char → Bool
  | '\r' :: '\n' :: cs => hasWholeLineBreaks cs
  | '\r' :: _ => false
  | _ :: cs => hasWholeLineBreaks cs
  | [] => true

/-- The lexemes of a comment that documents what follows it, or what it stands in. -/
def documentation? (inner : Bool) (content : List Char) : Option (List Lexeme) :=
  if hasWholeLineBreaks content then
    some ([.token (.mark '#' false)] ++ (if inner then [.token (.mark '!' false)] else [])
      ++ [.opening .bracket, .token (.word "doc"), .token (.mark '=' false),
        .token (.literal (quoted (String.ofList content))), .closing .bracket])
  else none

/-- The lexemes of a comment up to the end of its line, and the rest. -/
def lineComment? (cs : List Char) : Option (List Lexeme × List Char) :=
  let documented (inner : Bool) (content : List Char) : Option (List Lexeme × List Char) :=
    let line := content.takeWhile (· ≠ '\n')
    let rest := content.dropWhile (· ≠ '\n')
    let line := if rest ≠ [] ∧ line.getLast? = some '\r' then line.dropLast else line
    (documentation? inner line).map (·, rest)
  match cs with
  | '/' :: '/' :: _ => some ([], cs.dropWhile (· ≠ '\n'))
  | '/' :: content => documented false content
  | '!' :: content => documented true content
  | _ => some ([], cs.dropWhile (· ≠ '\n'))

/-- The lexemes of a comment in brackets, and the rest. -/
def blockComment? (cs : List Char) : Option (List Lexeme × List Char) :=
  let documented (inner : Bool) (content : List Char) : Option (List Lexeme × List Char) := do
    let rest ← afterComment? 1 cs
    let lexemes ← documentation? inner (content.take (content.length - rest.length - 2))
    some (lexemes, rest)
  match cs with
  | '*' :: '/' :: rest => some ([], rest)
  | '*' :: '*' :: _ => (afterComment? 1 cs).map ([], ·)
  | '*' :: content => documented false content
  | '!' :: content => documented true content
  | _ => (afterComment? 1 cs).map ([], ·)

/-! ### Words and marks -/

/-- The words that cannot be raw. -/
def neverRaw : List String :=
  ["_", "super", "self", "Self", "crate"]

/-- The rest behind a word, which may be raw. -/
def afterName? : List Char → Option (List Char)
  | 'r' :: '#' :: cs => do
      let rest ← afterWord? cs
      let word := String.ofList (cs.take (cs.length - rest.length))
      if neverRaw.contains word then none else some rest
  | cs => afterWord? cs

/-- The starts of texts in quotes.  What starts so is a literal or nothing. -/
def quotedStarts : List String :=
  ["r\"", "r#\"", "r##", "b\"", "b'", "br\"", "br#", "c\"", "cr\"", "cr#"]

/-- The characters that are marks. -/
def markChars : List Char :=
  "~!@#$%^&*-=+|;:,<.>/?'".toList

/-- Whether a mark stands at the start of a text: a comment does not count. -/
def startsWithMark : List Char → Bool
  | '/' :: '/' :: _ => false
  | '/' :: '*' :: _ => false
  | c :: _ => markChars.contains c
  | [] => false

/-- Whether an apostrophe before the text makes the name of a lifetime. -/
def isLifetimeName (cs : List Char) : Bool :=
  match afterName? cs with
  | some ('\'' :: _) => false
  | some ('#' :: _) => ['r', '#'].isPrefixOf cs
  | some _ => true
  | none => false

/-- The mark at the start of a text, and the rest. -/
def mark? (cs : List Char) : Option (Token × List Char) :=
  match cs with
  | '\'' :: rest => if isLifetimeName rest then some (.mark '\'' true, rest) else none
  | c :: rest => if startsWithMark cs then some (.mark c (startsWithMark rest), rest) else none
  | [] => none

/-- The token without content at the start of a text, and the rest.  A literal comes first. -/
def token? (cs : List Char) : Option (Token × List Char) :=
  let text (rest : List Char) : String := String.ofList (cs.take (cs.length - rest.length))
  match afterLiteral? cs, mark? cs with
  | some rest, _ => some (.literal (text rest), rest)
  | none, some found => some found
  | none, none =>
      if quotedStarts.any fun start => start.toList.isPrefixOf cs then none
      else (afterName? cs).map fun rest => (.word (text rest), rest)

/-! ### Texts -/

/-- The lexemes at the start of a text, and the rest, which is shorter. -/
def lexemesAt? : List Char → Option (List Lexeme × List Char)
  | [] => none
  | '/' :: '/' :: cs => lineComment? cs
  | '/' :: '*' :: cs => blockComment? cs
  | '(' :: cs => some ([.opening .parenthesis], cs)
  | '[' :: cs => some ([.opening .bracket], cs)
  | '\x7b' :: cs => some ([.opening .brace], cs)
  | ')' :: cs => some ([.closing .parenthesis], cs)
  | ']' :: cs => some ([.closing .bracket], cs)
  | '\x7d' :: cs => some ([.closing .brace], cs)
  | c :: cs =>
      if isGap c then some ([], cs)
      else (token? (c :: cs)).map fun (t, rest) => ([.token t], rest)

/-- The lexemes of a text, with a bound for its length. -/
def lexemes? : Nat → List Char → Option (List Lexeme)
  | _, [] => some []
  | 0, _ :: _ => none
  | n + 1, cs => do
      let (found, rest) ← lexemesAt? cs
      let more ← lexemes? n rest
      some (found ++ more)

/-- The tokens that lexemes make, after the tokens so far (the last one first) and inside brackets
that have been opened, each with the tokens before it. -/
def nest : List (Delimiter × List Token) → List Token → List Lexeme → Option (List Token)
  | [], tokens, [] => some tokens.reverse
  | _ :: _, _, [] => none
  | outer, tokens, .token t :: rest => nest outer (t :: tokens) rest
  | outer, tokens, .opening d :: rest => nest ((d, tokens) :: outer) [] rest
  | [], _, .closing _ :: _ => none
  | (d, before) :: outer, tokens, .closing e :: rest =>
      if d = e then nest outer (.group d tokens.reverse :: before) rest else none

/-- The tokens of a text.  A mark of the byte order at its start is dropped. -/
def tokens? (text : String) : Option (List Token) :=
  let cs := text.toList
  let cs := if cs.head? = some (Char.ofNat 0xFEFF) then cs.drop 1 else cs
  (lexemes? cs.length cs).bind (nest [] [])

end EntitySql.Source
