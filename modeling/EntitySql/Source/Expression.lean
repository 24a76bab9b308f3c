import EntitySql.Source.Pattern

/-!
# Expressions and statements

The expressions that the length of an array and a constant argument may hold.

## Main definitions

* `binaryOperator?` : the operator at the start, with its strength.
* `expressionPhrase`, `operandPhrase`, `operatorsPhrase`, `statementPhrase` : expressions.
* `blockPhrase` : statements in braces.
-/

namespace EntitySql.Source

variable (read : PhraseReader)

/-! ### Operators -/

/-- The operators between two operands with their strengths.  A longer one comes before those that
it starts with. -/
def binaryOperators : List (String × Precedence) :=
  [("+=", .assignment), ("-=", .assignment), ("*=", .assignment), ("/=", .assignment),
    ("%=", .assignment), ("^=", .assignment), ("&=", .assignment), ("|=", .assignment),
    ("<<=", .assignment), (">>=", .assignment), ("&&", .conjunction), ("||", .disjunction),
    ("<<", .shift), (">>", .shift), ("==", .comparison), ("<=", .comparison), ("!=", .comparison),
    (">=", .comparison), ("+", .sum), ("-", .sum), ("*", .product), ("/", .product),
    ("%", .product), ("^", .bitXor), ("&", .bitAnd), ("|", .bitOr), ("<", .comparison),
    (">", .comparison)]

/-- The operator at the start, with its strength. -/
def binaryOperator? (ts : List Token) : Option (String × Precedence) :=
  binaryOperators.find? fun (text, _) => atMarks text ts

/-- Whether an assignment stands at the start. -/
def atAssignment (ts : List Token) : Bool :=
  atMarks "=" ts && !atMarks "=>" ts

/-- The strength of what stands at the start behind an operand. -/
def precedenceAt (ts : List Token) : Precedence :=
  match binaryOperator? ts with
  | some (_, strength) => strength
  | none =>
      if atAssignment ts then .assignment
      else if atMarks ".." ts then .range
      else if atWord "as" ts then .cast
      else .anything

/-- Whether an expression stands at the start. -/
def atExpression (ts : List Token) : Bool :=
  match ts with
  | .word w :: _ => w != "as"
  | .group .. :: _ => true
  | _ =>
      atLiteral ts || atLifetime ts || atAnyMarks ["..", "::", "#"] ts
        || (atMarks "!" ts && !atMarks "!=" ts)
        || (atMarks "-" ts && !atAnyMarks ["-=", "->"] ts)
        || (atMarks "*" ts && !atMarks "*=" ts)
        || (atMarks "|" ts && !atMarks "|=" ts)
        || (atMarks "&" ts && !atMarks "&=" ts)
        || (atMarks "<" ts && !atAnyMarks ["<=", "<<="] ts)

/-- The operand behind an operator, with the stronger operators that belong to it. -/
def rightOperand (structures : Bool) (strength : Precedence) : Reader (List Token) := do
  let first ← read (.operand structures)
  let whole ← loop (fun right => do
    let ts ← get
    let next := precedenceAt ts
    if strength.rank < next.rank || (next = strength && strength = .assignment) then
      let more ← read (.operators structures right next)
      return (more, (← get).length < ts.length)
    return (right, false)) first
  return whole.tokens

/-- The end of a range, if it is given. -/
def rangeEnd (structures closed : Bool) : Reader (List Token) := do
  let ts ← get
  let ended := ts.isEmpty || atWord "as" ts || (!structures && atGroup .brace ts)
    || (atMarks "." ts && !atMarks ".." ts)
    || atAnyMarks [",", ";", "?", "=>", "=", "+", "/", "%", "^", ">", "<=", "!=", "-=", "*=", "&=",
      "|=", "<<="] ts
  if ended && !closed then return []
  rightOperand read structures .range

/-- The mark of a range and its end. -/
def rangeTail (structures : Bool) : Reader (List Token) := do
  let closed := atMarks "..=" (← get)
  let mark ← rangeMark false
  return mark ++ (← rangeEnd read structures closed)

/-- The operators of at least a strength behind an expression.  A range takes no operators, and a
comparison is not compared. -/
def operatorsPhrase (structures : Bool) (left : Reading) (least : Precedence) : Reader Reading :=
  loop (fun left => do
    let ts ← get
    if left.shape = .range then return (left, false)
    match binaryOperator? ts with
    | some (text, strength) =>
        if strength.rank < least.rank then return (left, false)
        if strength = .comparison && left.shape = .comparison then failure
        let operator ← marks text
        let right ← rightOperand read structures strength
        let shape := if strength = .comparison then .comparison else .other
        return (⟨left.tokens ++ operator ++ right, shape⟩, true)
    | none =>
        if least.rank ≤ Precedence.assignment.rank && atAssignment ts then
          let equals ← marks "="
          let right ← rightOperand read structures .assignment
          return (⟨left.tokens ++ equals ++ right, .other⟩, true)
        if least.rank ≤ Precedence.range.rank && atMarks ".." ts then
          return (⟨left.tokens ++ (← rangeTail read structures), .range⟩, true)
        if least.rank ≤ Precedence.cast.rank && atWord "as" ts then
          let keyword ← word "as"
          let type ← read.tokens (.type false)
          return (⟨left.tokens ++ keyword ++ type, .other⟩, true)
        return (left, false)) left

/-! ### Blocks and what holds them -/

/-- A block without attributes of its own. -/
def plainBlock : Reader (List Token) :=
  read.tokens (.block false)

/-- A condition and the blocks behind it. -/
def conditional : Reader (List Token) :=
  loop (fun done => do
    let keyword ← word "if"
    let condition ← read.tokens (.expression false)
    let consequence ← plainBlock read
    let done := done ++ keyword ++ condition ++ consequence
    let otherwise ← word? "else"
    if otherwise.isEmpty then return (done, false)
    if atWord "if" (← get) then return (done ++ otherwise, true)
    return (done ++ otherwise ++ (← plainBlock read), false)) []

/-- A loop behind its label. -/
def repetition : Reader (List Token) := do
  let ts ← get
  if atWord "while" ts then
    let keyword ← word "while"
    let condition ← read.tokens (.expression false)
    return keyword ++ condition ++ (← read.tokens (.block true))
  if atWord "for" ts then
    let keyword ← word "for"
    let item ← alternatives read
    let within ← word "in"
    let items ← read.tokens (.expression false)
    return keyword ++ item ++ within ++ items ++ (← read.tokens (.block true))
  let keyword ← word "loop"
  return keyword ++ (← read.tokens (.block true))

/-- A loop or a block behind a label. -/
def labelled : Reader (List Token) := do
  let name ← lifetime
  let colon ← marks ":"
  if atGroup .brace (← get) then return name ++ colon ++ (← read.tokens (.block true))
  return name ++ colon ++ (← repetition read)

/-! ### Single operands -/

/-- A closure: its parameters between bars, and its body. -/
def closure (structures : Bool) : Reader (List Token) := do
  let about ← binder read
  let qualifiers :=
    (← word? "const") ++ (← word? "static") ++ (← word? "async") ++ (← word? "move")
  let opening ← marks "|"
  let parameters ← loop (fun done => do
    if atMarks "|" (← get) then return (done, false)
    let before ← attributes read false
    let name ← read.tokens .pattern
    let colon ← marks? ":"
    let type ← if colon.isEmpty then pure [] else read.tokens (.type true)
    let done := done ++ before ++ name ++ colon ++ type
    if atMarks "|" (← get) then return (done, false)
    let comma ← marks ","
    return (done ++ comma, true)) []
  let closing ← marks "|"
  let start := about ++ qualifiers ++ opening ++ parameters ++ closing
  let arrow ← marks? "->"
  if arrow.isEmpty then return start ++ (← read.tokens (.expression structures))
  let result ← read.tokens (.type true)
  return start ++ arrow ++ result ++ (← read.tokens (.block true))

/-- A field of a structure, or the structure that the other fields come from. -/
def fieldValue : Reader (List Token) := do
  if atMarks ".." (← get) then
    let rest ← marks ".."
    if (← get).isEmpty then return rest
    let base ← read.tokens (.expression true)
    expect List.isEmpty
    return rest ++ base
  let before ← attributes read false
  let (name, named) ← fieldName
  if named && !atMarks ":" (← get) then return before ++ name
  let colon ← marks ":"
  return before ++ name ++ colon ++ (← read.tokens (.expression true))

/-- A path, a call by name with a bang, or a structure in braces. -/
def pathExpression (structures : Bool) : Reader Reading := do
  let p ← qualifiedPath read true
  let ts ← get
  if !p.qualified && p.bare && atMarks "!" ts && !atMarks "!=" ts then
    let bang ← marks "!"
    let braces := atGroup .brace (← get)
    return ⟨p.tokens ++ bang ++ (← anyGroup), if braces then .bracedCall else .other⟩
  if structures && atGroup .brace ts then
    return ⟨p.tokens ++ (← inside .brace (commaSeparated (fieldValue read))), .other⟩
  return ⟨p.tokens, .other⟩

/-- An array: its items, or one item and their number. -/
def arrayExpression : Reader (List Token) :=
  inside .bracket do
    if (← get).isEmpty then return []
    let first ← read.tokens (.expression true)
    if (← get).isEmpty then return first
    let semicolon ← marks? ";"
    if !semicolon.isEmpty then return first ++ semicolon ++ (← read.tokens (.expression true))
    let comma ← marks ","
    return first ++ comma ++ (← commaSeparated (read.tokens (.expression true)))

/-- One of the cases of a choice.  Behind an expression that is not a block a comma follows, unless
the case is the last one. -/
def choiceCase : Reader (List Token) := do
  let before ← attributes read false
  let pattern ← alternatives read
  let guardWord ← word? "if"
  let guardTokens ← if guardWord.isEmpty then pure [] else read.tokens (.expression true)
  let arrow ← marks "=>"
  let body ← read .statement
  let comma ←
    if body.shape ≠ .block && !(← get).isEmpty then marks "," else marks? ","
  return before ++ pattern ++ guardWord ++ guardTokens ++ arrow ++ body.tokens ++ comma

/-- Repeats a reader up to the end. -/
def untilEnd (item : Reader (List Token)) : Reader (List Token) :=
  loop (fun done => do
    if (← get).isEmpty then return (done, false)
    return (done ++ (← item), true)) []

/-- A choice between cases. -/
def choice : Reader (List Token) := do
  let keyword ← word "match"
  let subject ← read.tokens (.expression false)
  let cases ← inside .brace do
    let before ← attributes read true
    return before ++ (← untilEnd (choiceCase read))
  return keyword ++ subject ++ cases

/-- A value that a word such as `return` may hand over. -/
def optionalValue (allowed : List Token → Bool) : Reader (List Token) := do
  let ts ← get
  if atExpression ts && allowed ts then read.tokens (.expression true) else return []

/-- Whether a closure stands at the start. -/
def atClosure (ts : List Token) : Bool :=
  let next := skipped ts
  let third := skipped next
  atMarks "|" ts || atAnyWord ["move", "static"] ts
    || (atWord "for" ts && atMarks "<" next && (atLifetime third || atMarks ">" third))
    || (atWord "const" ts && !atGroup .brace next)
    || (atWord "async" ts && (atMarks "|" next || atWord "move" next))

/-- A block behind words that say how it is run. -/
def markedBlock? : Reader (Option Reading) := do
  let ts ← get
  let next := skipped ts
  if atWord "async" ts && (atGroup .brace next
      || (atWord "move" next && atGroup .brace (skipped next))) then
    let keyword ← word "async"
    let move ← word? "move"
    return some ⟨keyword ++ move ++ (← plainBlock read), .other⟩
  if atAnyWord ["try", "const", "unsafe"] ts && atGroup .brace next then
    let keyword ← take 1
    return some ⟨keyword ++ (← read.tokens (.block (!atWord "try" ts))), .block⟩
  return none

/-- An operand without what may follow it. -/
def atom (structures : Bool) : Reader Reading := do
  let plain (tokens : Reader (List Token)) : Reader Reading := do return ⟨← tokens, .other⟩
  let block (tokens : Reader (List Token)) : Reader Reading := do return ⟨← tokens, .block⟩
  let ts ← get
  if atLiteral ts then return ← plain literal
  if let some reading ← markedBlock? read then return reading
  if atClosure ts then return ← plain (closure read structures)
  if atPath ts || (atWord "try" ts && atAnyMarks ["!", "::"] (skipped ts)) then
    return ← pathExpression read structures
  if atGroup .parenthesis ts then
    return ← plain (inside .parenthesis (commaSeparated (read.tokens (.expression true))))
  if atGroup .bracket ts then return ← plain (arrayExpression read)
  if atGroup .brace ts then return ← block (read.tokens (.block true))
  if atWord "if" ts then return ← block (conditional read)
  if atWord "match" ts then return ← block (choice read)
  if atAnyWord ["while", "for", "loop"] ts then return ← block (repetition read)
  if atLifetime ts then return ← block (labelled read)
  if atWord "break" ts then
    return ← plain do
      let keyword ← word "break"
      let label ← lifetime?
      if !label.isEmpty && atMarks ":" (← get) then failure
      return keyword ++ label
        ++ (← optionalValue read fun ts => structures || !atGroup .brace ts)
  if atWord "continue" ts then
    return ← plain do
      let keyword ← word "continue"
      return keyword ++ (← lifetime?)
  if atAnyWord ["return", "yield"] ts then
    return ← plain do
      let keyword ← take 1
      return keyword ++ (← optionalValue read fun _ => true)
  if atWord "become" ts then
    return ← plain do
      let keyword ← word "become"
      return keyword ++ (← read.tokens (.expression true))
  if atWord "let" ts then
    return ← plain do
      let keyword ← word "let"
      let pattern ← alternatives read
      let equals ← marks "="
      let value ← read (.operand structures)
      let value ← read (.operators structures value .comparison)
      return keyword ++ pattern ++ equals ++ value.tokens
  if atMarks ".." ts then return ⟨← rangeTail read structures, .range⟩
  plain (word "_")

/-- Whether a text is the number of a field, a point, and maybe the number of another field. -/
def isFieldPair (text : String) : Bool :=
  let cs := text.toList
  let rest := cs.dropWhile Char.isDigit
  match cs, rest with
  | c :: _, '.' :: more => c.isDigit && more.all Char.isDigit
  | _, _ => false

/-- What may follow an operand: arguments, an index, a field, a call of a method, or a question
mark. -/
def trailers (first : Reading) : Reader Reading :=
  loop (fun left => do
    let ts ← get
    let extend (tokens : List Token) : Reading := ⟨left.tokens ++ tokens, .other⟩
    let arguments := inside .parenthesis (commaSeparated (read.tokens (.expression true)))
    if atGroup .parenthesis ts then return (extend (← arguments), true)
    if atGroup .bracket ts then
      return (extend (← inside .bracket (read.tokens (.expression true))), true)
    if left.shape = .range then return (left, false)
    if atMarks "?" ts then return (extend (← marks "?"), true)
    if !atMarks "." ts || atMarks ".." ts then return (left, false)
    let point ← marks "."
    let pair ←
      match ← get with
      | .literal text :: _ => if isFieldPair text then take 1 else pure []
      | _ => pure []
    let start := point ++ pair
    if !pair.isEmpty && (written pair).getLast? != some '.' then return (extend start, true)
    let awaited ← word? "await"
    if !awaited.isEmpty then return (extend (start ++ awaited), true)
    let (name, named) ← fieldName
    if named && atMarks "::" (← get) then
      let parameters ← genericArguments read
      return (extend (start ++ name ++ parameters ++ (← arguments)), true)
    if named && atGroup .parenthesis (← get) then
      return (extend (start ++ name ++ (← arguments)), true)
    return (extend (start ++ name), true)) first

/-- An operand: marks before an atom, the atom, and what follows it. -/
def operandPhrase (structures : Bool) : Reader Reading := do
  let before ← attributes read false
  let ts ← get
  if atMarks "&" ts then
    let mark ← marks "&"
    let ts ← get
    let raw := atWord "raw" ts && atAnyWord ["mut", "const"] (skipped ts)
    let kind ← if raw then take 2 else word? "mut"
    return ⟨before ++ mark ++ kind ++ (← read.tokens (.operand structures)), .other⟩
  if atAnyMarks ["*", "!", "-"] ts then
    let mark ← take 1
    return ⟨before ++ mark ++ (← read.tokens (.operand structures)), .other⟩
  let first ← atom read structures
  let whole ← trailers read first
  if !before.isEmpty && whole.shape = .range then failure
  return { whole with tokens := before ++ whole.tokens }

/-- An expression. -/
def expressionPhrase (structures : Bool) : Reader Reading := do
  let first ← read (.operand structures)
  read (.operators structures first .anything)

/-! ### Statements -/

/-- Whether an expression that is a statement by itself stands at the start. -/
def atBlockStatement (ts : List Token) : Bool :=
  let next := skipped ts
  let third := skipped next
  atGroup .brace ts || atLifetime ts || atAnyWord ["if", "while", "loop", "match", "unsafe"] ts
    || (atWord "for" ts
      && !(atMarks "<" next && (atLifetime third || atMarks ">" third)))
    || (atAnyWord ["try", "const"] ts && atGroup .brace next)

/-- An expression at the start of a statement.  One that is a statement by itself ends where its
braces end, unless a point or a question mark follows. -/
def statementPhrase : Reader Reading := do
  let before ← attributes read false
  if !atBlockStatement (← get) then
    let first ← read (.operand true)
    return ← read (.operators true { first with tokens := before ++ first.tokens } .anything)
  let first ← atom read true
  let first := { first with tokens := before ++ first.tokens }
  let ts ← get
  if (atMarks "." ts && !atMarks ".." ts) || atMarks "?" ts then
    return ← read (.operators true (← trailers read first) .anything)
  return first

/-- A call by name with arguments in braces, if it is a statement here. -/
def callStatement? : Reader (Option (List Token)) := fun ts =>
  match modulePath ts with
  | some (path, .mark '!' joined :: .group .brace content :: rest) =>
      if (atMarks "." rest && !atMarks ".." rest) || atMarks "?" rest then some (none, ts)
      else some (some (path ++ [.mark '!' joined, .group .brace content]), rest)
  | _ => some (none, ts)

/-- A binding. -/
def binding : Reader (List Token) := do
  let keyword ← word "let"
  let pattern ← read.tokens .pattern
  let colon ← marks? ":"
  let type ← if colon.isEmpty then pure [] else read.tokens (.type true)
  let equals ← marks? "="
  let value ←
    if equals.isEmpty then pure [] else do
      let value ← read.tokens (.expression true)
      let braced := value.getLast?.any fun t => atGroup .brace [t]
      let otherwise ← if braced then pure [] else word? "else"
      let block ← if otherwise.isEmpty then pure [] else plainBlock read
      pure (value ++ otherwise ++ block)
  return keyword ++ pattern ++ colon ++ type ++ equals ++ value ++ (← marks ";")

/-- A statement, and whether another one may follow. -/
def statement : Reader (List Token × Bool) := do
  let before ← attributes read false
  if let some call ← callStatement? then return (before ++ call ++ (← marks? ";"), true)
  if atWord "let" (← get) then return (before ++ (← binding read), true)
  let value ← read .statement
  let semicolon ← marks? ";"
  let complete := !semicolon.isEmpty || value.shape = .block || value.shape = .bracedCall
  return (before ++ value.tokens ++ semicolon, complete)

/-- Statements up to the end.  Only the last one need not be complete. -/
def statements : Reader (List Token) :=
  loop (fun done => do
    let semicolon ← marks? ";"
    if !semicolon.isEmpty then return (done ++ semicolon, true)
    if (← get).isEmpty then return (done, false)
    let (next, complete) ← statement read
    if !complete then expect List.isEmpty
    return (done ++ next, true)) []

/-- Statements in braces. -/
def blockPhrase (inner : Bool) : Reader (List Token) :=
  inside .brace do
    let before ← if inner then attributes read true else pure []
    return before ++ (← statements read)

end EntitySql.Source
