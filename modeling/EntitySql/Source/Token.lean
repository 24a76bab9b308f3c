/-!
# Tokens of the declaration language

Attributes hold texts of the language in which structures are declared.  Such a text is a sequence
of tokens; a token in brackets holds the tokens between them.

## Main definitions

* `Delimiter` : the three kinds of brackets.
* `Token` : a word, a mark, a literal, or tokens in brackets.
* `Token.written`, `written` : the text of a token and of a sequence, without spaces.
-/

namespace EntitySql.Source

/-- The kinds of brackets. -/
inductive Delimiter where
  | parenthesis
  | bracket
  | brace
deriving DecidableEq

/-- The mark that opens brackets. -/
def Delimiter.opening : Delimiter → Char
  | parenthesis => '('
  | bracket => '['
  | brace => '\x7b'

/-- The mark that closes brackets. -/
def Delimiter.closing : Delimiter → Char
  | parenthesis => ')'
  | bracket => ']'
  | brace => '\x7d'

/-- A token. -/
inductive Token where
  /-- A word, with the mark `r#` if it has one. -/
  | word (text : String)
  /-- A mark of one character.  It is joined if the next mark follows without a gap. -/
  | mark (c : Char) (joined : Bool)
  /-- A text or a number, as it is written. -/
  | literal (text : String)
  /-- Tokens in brackets. -/
  | group (delimiter : Delimiter) (content : List Token)

mutual

/-- The text of a token without spaces. -/
def Token.written : Token → List Char
  | .word text => text.toList
  | .mark c _ => [c]
  | .literal text => text.toList.filter (· ≠ ' ')
  | .group d content => d.opening :: written content ++ [d.closing]

/-- The text of tokens without spaces. -/
def written : List Token → List Char
  | [] => []
  | t :: ts => t.written ++ written ts

end

end EntitySql.Source
