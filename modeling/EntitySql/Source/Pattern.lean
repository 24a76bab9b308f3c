import EntitySql.Source.TypeExpression

/-!
# Patterns

The patterns of bindings and of cases: names, constants, ranges, references, and the contents of
tuples, arrays and structures.

## Main definitions

* `patternPhrase` : a pattern without alternatives.
* `alternatives` : patterns with bars between them.
-/

namespace EntitySql.Source

variable (read : PhraseReader)

/-- Whether a bar between patterns stands at the start. -/
def atBar (ts : List Token) : Bool :=
  atMarks "|" ts && !atAnyMarks ["||", "|="] ts

/-- Patterns with bars between them; a bar may come first. -/
def alternatives : Reader (List Token) := do
  let start ← marks? "|"
  let first ← read.tokens .pattern
  loop (fun done => do
    if !atBar (← get) then return (done, false)
    let bar ← marks "|"
    return (done ++ bar ++ (← read.tokens .pattern), true)) (start ++ first)

/-- The name or the number of a field, and whether it is a name. -/
def fieldName : Reader (List Token × Bool) := do
  match ← get with
  | .literal text :: _ =>
      if text.toList.all Char.isDigit then return (← take 1, false) else failure
  | _ => return (← identifier, true)

/-- The mark of a range. -/
def rangeMark (obsolete : Bool) : Reader (List Token) := do
  let ts ← get
  if atMarks "..=" ts then marks "..="
  else if atMarks "..." ts then if obsolete then marks "..." else failure
  else marks ".."

/-- A path as a constant. -/
def constantPath : Reader (List Token) := do
  return (← qualifiedPath read true).tokens

/-- The end of a range of constants, if it is given. -/
def rangeBound? : Reader (Option (List Token)) := do
  let ts ← get
  if ts.isEmpty || atAnyMarks ["|", "=", ",", ";"] ts || atWord "if" ts
      || (atMarks ":" ts && !atMarks "::" ts) then
    return none
  if atLiteral ts then return some (← literal)
  if atPath ts then return some (← constantPath read)
  let keyword ← word "const"
  return some (keyword ++ (← read.tokens (.block true)))

/-- The rest of a range behind its start. -/
def rangeFrom (start : List Token) : Reader (List Token) := do
  let closed := atAnyMarks ["..=", "..."] (← get)
  let mark ← rangeMark true
  match ← rangeBound? read with
  | some bound => return start ++ mark ++ bound
  | none => if closed then failure else return start ++ mark

/-- A field in a pattern of a structure. -/
def fieldPattern : Reader (List Token) := do
  let before ← attributes read false
  if atMarks ".." (← get) then
    let rest ← marks ".."
    expect List.isEmpty
    return before ++ rest
  let modifiers := (← word? "box") ++ (← word? "ref") ++ (← word? "mut")
  if !modifiers.isEmpty then return before ++ modifiers ++ (← identifier)
  let (name, named) ← fieldName
  if named && !atMarks ":" (← get) then return before ++ name
  let colon ← marks ":"
  return before ++ name ++ colon ++ (← alternatives read)

/-- A pattern that starts with a path. -/
def pathPattern : Reader (List Token) := do
  let p ← qualifiedPath read true
  let ts ← get
  if !p.qualified && p.bare && atMarks "!" ts && !atMarks "!=" ts then
    let bang ← marks "!"
    return p.tokens ++ bang ++ (← anyGroup)
  if atGroup .brace ts then
    return p.tokens ++ (← inside .brace (commaSeparated (fieldPattern read)))
  if atGroup .parenthesis ts then
    return p.tokens ++ (← inside .parenthesis (commaSeparated (alternatives read)))
  if atMarks ".." ts then return ← rangeFrom read p.tokens
  return p.tokens

/-- A pattern that is a name, and maybe a pattern that the whole has to match too. -/
def namePattern : Reader (List Token) := do
  let reference ← word? "ref"
  let mutable ← word? "mut"
  let name ← if atWord "self" (← get) then take 1 else identifier
  let sign ← marks? "@"
  if sign.isEmpty then return reference ++ mutable ++ name
  return reference ++ mutable ++ name ++ sign ++ (← read.tokens .pattern)

/-- Whether a pattern that starts with a path stands at the start. -/
def atPathPattern (ts : List Token) : Bool :=
  let next := skipped ts
  (atIdentifier ts && (atAnyMarks ["::", "!", ".."] next || atGroup .brace next
      || atGroup .parenthesis next))
    || (atWord "self" ts && atMarks "::" next)
    || atAnyMarks ["::", "<"] ts || atAnyWord ["Self", "super", "crate"] ts

/-- A pattern without alternatives. -/
def patternPhrase : Reader (List Token) := do
  let ts ← get
  if atPathPattern ts then return ← pathPattern read
  if atWord "_" ts then return ← word "_"
  if atWord "box" ts then
    let keyword ← word "box"
    return keyword ++ (← read.tokens .pattern)
  if atLiteral ts || atMarks "-" ts || atWord "const" ts then
    match ← rangeBound? read with
    | none => failure
    | some start =>
        if atMarks ".." (← get) then return ← rangeFrom read start
        return start
  if atIdentifier ts || atAnyWord ["ref", "mut", "self"] ts then return ← namePattern read
  if atMarks "&" ts then
    let mark ← marks "&"
    let mutable ← word? "mut"
    return mark ++ mutable ++ (← read.tokens .pattern)
  if atGroup .parenthesis ts then
    return ← inside .parenthesis (commaSeparated (alternatives read))
  if atGroup .bracket ts then
    return ← inside .bracket (commaSeparated (alternatives read))
  if atMarks "..." ts then failure
  expect (atMarks "..")
  rangeFrom read []

end EntitySql.Source
