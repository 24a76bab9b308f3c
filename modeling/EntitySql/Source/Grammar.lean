import EntitySql.Source.Expression

/-!
# The grammar of paths

All parts of the grammar together, and the paths that a text can name.

## Main definitions

* `phrase` : the reader of all phrases.
* `wholePath?` : the path that a text names.
-/

namespace EntitySql.Source

/-- The reader of phrases that contain each other at most `n` deep. -/
def phrase : Nat → PhraseReader
  | 0, _ => failure
  | n + 1, p =>
      let read := phrase n
      let plain (tokens : Reader (List Token)) : Reader Reading := do return ⟨← tokens, .other⟩
      match p with
      | .type sums => typePhrase read sums
      | .bound constant captures => plain (boundPhrase read constant captures)
      | .expression structures => expressionPhrase read structures
      | .operand structures => operandPhrase read structures
      | .operators structures left least => operatorsPhrase read structures left least
      | .statement => statementPhrase read
      | .pattern => plain (patternPhrase read)
      | .block inner => plain (blockPhrase read inner)

/-- A depth that no phrase in a text exceeds: a character opens a few phrases at most. -/
def depthBound (text : String) : Nat :=
  4 * text.length + 16

/-- The path of an expression, written without spaces, if the text names one. -/
def wholePath? (text : String) : Option String := do
  let read := phrase (depthBound text)
  let path : Reader (List Token) := do
    let before ← attributes read false
    return before ++ (← qualifiedPath read true).tokens
  let ts ← tokens? text
  match path ts with
  | some (tokens, []) => some (String.ofList (written tokens))
  | _ => none

end EntitySql.Source
