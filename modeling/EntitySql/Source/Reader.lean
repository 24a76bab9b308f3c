import EntitySql.Source.Lexeme

/-!
# Readers of tokens

A reader takes tokens from the start of a sequence and returns what they mean, or fails.  Parts of
the grammar contain each other, so each part gets a reader for all of them: a reader of phrases.

## Main definitions

* `Reader` : readers of tokens.
* `isIdentifier` : the words that are names.
* `marks`, `word`, `identifier`, `lifetime`, `within` : readers of single parts.
* `loop`, `commaSeparated` : readers of repeated parts.
* `Phrase`, `Reading` : the parts of the grammar that contain each other, and what is read of them.
-/

namespace EntitySql.Source

/-- A reader of tokens. -/
abbrev Reader := StateT (List Token) Option

/-- The words that are no names. -/
def reservedWords : List String :=
  ["_", "abstract", "as", "async", "await", "become", "box", "break", "const", "continue", "crate",
    "do", "dyn", "else", "enum", "extern", "false", "final", "fn", "for", "if", "impl", "in", "let",
    "loop", "macro", "match", "mod", "move", "mut", "override", "priv", "pub", "ref", "return",
    "Self", "self", "static", "struct", "super", "trait", "true", "try", "type", "typeof", "unsafe",
    "unsized", "use", "virtual", "where", "while", "yield"]

/-- Whether a word is a name. -/
def isIdentifier (text : String) : Bool :=
  !reservedWords.contains text

/-! ### What stands at the start -/

/-- Whether marks stand at the start, all but the last one joined to the next. -/
def startsWithMarks : List Char → List Token → Bool
  | [c], .mark d _ :: _ => c == d
  | c :: cs, .mark d joined :: ts => c == d && joined && startsWithMarks cs ts
  | _, _ => false

/-- Whether marks stand at the start. -/
def atMarks (text : String) (ts : List Token) : Bool :=
  startsWithMarks text.toList ts

/-- Whether one of several sequences of marks stands at the start. -/
def atAnyMarks (texts : List String) (ts : List Token) : Bool :=
  texts.any fun text => atMarks text ts

/-- Whether a word stands at the start. -/
def atWord (text : String) : List Token → Bool
  | .word w :: _ => w == text
  | _ => false

/-- Whether one of several words stands at the start. -/
def atAnyWord (texts : List String) : List Token → Bool
  | .word w :: _ => texts.contains w
  | _ => false

/-- Whether a word that is a name stands at the start. -/
def atIdentifier : List Token → Bool
  | .word w :: _ => isIdentifier w
  | _ => false

/-- Whether brackets of a kind stand at the start. -/
def atGroup (d : Delimiter) : List Token → Bool
  | .group e _ :: _ => d = e
  | _ => false

/-- Whether the name of a lifetime stands at the start. -/
def atLifetime : List Token → Bool
  | .mark '\'' _ :: .word _ :: _ => true
  | _ => false

/-- The text of the literal at the start, if there is one: a number may have a minus, and the two
truth values are literals. -/
def literalAt? : List Token → Option (List Token)
  | .literal text :: _ => some [.literal text]
  | .word w :: _ => if w = "true" ∨ w = "false" then some [.word w] else none
  | .mark '-' joined :: .literal text :: _ =>
      if text.toList.head?.any Char.isDigit then some [.mark '-' joined, .literal text] else none
  | _ => none

/-- Whether a literal stands at the start. -/
def atLiteral (ts : List Token) : Bool :=
  (literalAt? ts).isSome

/-- The tokens without the first one.  The name of a lifetime counts as one. -/
def skipped : List Token → List Token
  | .mark '\'' _ :: .word _ :: ts => ts
  | _ :: ts => ts
  | [] => []

/-! ### Readers of single parts -/

/-- Fails unless a condition holds of the tokens ahead. -/
def expect (condition : List Token → Bool) : Reader Unit := do
  if condition (← get) then return () else failure

/-- The next `n` tokens. -/
def take (n : Nat) : Reader (List Token) :=
  fun ts => if n ≤ ts.length then some (ts.take n, ts.drop n) else none

/-- Marks. -/
def marks (text : String) : Reader (List Token) := do
  expect (atMarks text)
  take text.length

/-- Marks, if they stand next. -/
def marks? (text : String) : Reader (List Token) := do
  if atMarks text (← get) then take text.length else return []

/-- A word. -/
def word (text : String) : Reader (List Token) := do
  expect (atWord text)
  take 1

/-- A word, if it stands next. -/
def word? (text : String) : Reader (List Token) := do
  if atWord text (← get) then take 1 else return []

/-- One of several words. -/
def anyWord (texts : List String) : Reader (List Token) := do
  expect (atAnyWord texts)
  take 1

/-- A name. -/
def identifier : Reader (List Token) := do
  expect atIdentifier
  take 1

/-- The name of a lifetime. -/
def lifetime : Reader (List Token) := do
  expect atLifetime
  take 2

/-- The name of a lifetime, if it stands next. -/
def lifetime? : Reader (List Token) := do
  if atLifetime (← get) then take 2 else return []

/-- A literal. -/
def literal : Reader (List Token) := do
  match literalAt? (← get) with
  | some ts => take ts.length
  | none => failure

/-- The content of brackets of a kind, which a reader takes to its end. -/
def within {α : Type} (d : Delimiter) (content : Reader α) : Reader α
  | .group e ts :: rest =>
      match if d = e then content ts else none with
      | some (a, []) => some (a, rest)
      | _ => none
  | _ => none

/-- Brackets of a kind with content that a reader takes to its end. -/
def inside (d : Delimiter) (content : Reader (List Token)) : Reader (List Token) := do
  return [.group d (← within d content)]

/-- Brackets of any kind with any content. -/
def anyGroup : Reader (List Token)
  | .group d ts :: rest => some ([.group d ts], rest)
  | _ => none

/-! ### Readers of repeated parts -/

/-- Repeats a step, which returns whether it has to be repeated, at most `n` times. -/
def iterate {α : Type} (step : α → Reader (α × Bool)) : Nat → α → Reader α
  | 0, _ => failure
  | n + 1, a => do
      let (b, again) ← step a
      if again then iterate step n b else return b

/-- Repeats a step, which takes a token each time that it has to be repeated. -/
def loop {α : Type} (step : α → Reader (α × Bool)) (a : α) : Reader α :=
  fun ts => iterate step (ts.length + 1) a ts

/-- Items with commas between them up to the end; a comma may follow the last one. -/
def commaSeparated (item : Reader (List Token)) : Reader (List Token) :=
  loop (fun done => do
    if (← get).isEmpty then return (done, false)
    let next ← item
    if (← get).isEmpty then return (done ++ next, false)
    let comma ← marks ","
    return (done ++ next ++ comma, true)) []

/-! ### Phrases -/

/-- The strength of operators, the weakest first. -/
inductive Precedence where
  | anything
  | assignment
  | range
  | disjunction
  | conjunction
  | comparison
  | bitOr
  | bitXor
  | bitAnd
  | shift
  | sum
  | product
  | cast
deriving DecidableEq

/-- The place of a strength in the order. -/
def Precedence.rank : Precedence → Nat
  | anything => 0
  | assignment => 1
  | range => 2
  | disjunction => 3
  | conjunction => 4
  | comparison => 5
  | bitOr => 6
  | bitXor => 7
  | bitAnd => 8
  | shift => 9
  | sum => 10
  | product => 11
  | cast => 12

/-- What the rules have to know of a phrase that has been read. -/
inductive Shape where
  /-- A type that is one name, with or without generic arguments. -/
  | name
  /-- A type that is another path without a qualification. -/
  | path
  /-- A type that is one bound of a trait. -/
  | bound
  /-- A type in parentheses. -/
  | enclosed
  /-- An expression that compares two others. -/
  | comparison
  /-- An expression that is a range. -/
  | range
  /-- An expression that is a statement without a semicolon. -/
  | block
  /-- A call by name with its arguments in braces. -/
  | bracedCall
  /-- Anything else. -/
  | other
deriving DecidableEq

/-- A phrase that has been read. -/
structure Reading where
  tokens : List Token
  shape : Shape

/-- The parts of the grammar that contain each other. -/
inductive Phrase where
  /-- A type, which may be a sum of bounds or not. -/
  | type (sums : Bool)
  /-- A bound of a type.  It may be constant, or name what a type captures, only in some places. -/
  | bound (constant capture : Bool)
  /-- An expression.  In front of a block it cannot end with a structure in braces. -/
  | expression (structures : Bool)
  /-- An expression without operators between two operands. -/
  | operand (structures : Bool)
  /-- The operators of at least a strength that follow an expression, and the operands behind
  them. -/
  | operators (structures : Bool) (left : Reading) (least : Precedence)
  /-- An expression at the start of a statement or behind the arrow of a case, where a block ends
  it. -/
  | statement
  /-- A pattern without alternatives. -/
  | pattern
  /-- Statements in braces.  Attributes of the whole may come first or not. -/
  | block (attributes : Bool)

/-- A reader of phrases. -/
abbrev PhraseReader := Phrase → Reader Reading

/-- The tokens of a phrase. -/
def PhraseReader.tokens (read : PhraseReader) (p : Phrase) : Reader (List Token) := do
  return (← read p).tokens

end EntitySql.Source
