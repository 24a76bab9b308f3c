import EntitySql.Source.Reader

/-!
# Paths

A path is a sequence of names with double colons between them.  A name may have generic arguments in
angle brackets; in expressions a double colon comes before them.  A path may start with a type in
angle brackets to which the rest belongs.

## Main definitions

* `PathReading` : a path that has been read.
* `genericArguments` : arguments in angle brackets.
* `plainPath`, `qualifiedPath` : the two kinds of paths.
* `modulePath` : a path of names only.
* `attributeContent`, `attributes` : attributes, which start with such a path.
-/

namespace EntitySql.Source

/-- A path that has been read. -/
structure PathReading where
  tokens : List Token
  /-- Whether it starts with a type in angle brackets. -/
  qualified : Bool
  /-- Whether it is one name without colons before it. -/
  single : Bool
  /-- Whether no name has arguments. -/
  bare : Bool
  /-- Whether the last name has no arguments. -/
  openEnd : Bool

/-- The words that are names in paths without being identifiers. -/
def pathWords : List String :=
  ["Self", "self", "super", "crate", "try"]

/-- A path of names without arguments. -/
def modulePath : Reader (List Token) := do
  let start ← marks? "::"
  loop (fun done => do
    expect fun ts => atIdentifier ts || atAnyWord pathWords ts
    let name ← take 1
    let colons ← marks? "::"
    return (done ++ name ++ colons, !colons.isEmpty)) start

/-! ### Generic arguments -/

/-- A generic argument. -/
structure GenericArgument where
  isLifetime : Bool
  tokens : List Token

/-- Arguments with commas between them, and behind the last one if `trailing`. -/
def joinedArguments (trailing : Bool) : List GenericArgument → List Token
  | [] => []
  | [a] => a.tokens ++ (if trailing then [.mark ',' false] else [])
  | a :: as => a.tokens ++ .mark ',' false :: joinedArguments trailing as

/-- The written form of arguments: the lifetimes come first.  A comma behind the last argument stays
behind it; if other arguments move behind a lifetime, all of them keep their commas. -/
def arrangedArguments (trailing : Bool) (as : List GenericArgument) : List Token :=
  let (lifetimes, others) := as.partition (·.isLifetime)
  let moved := as.getLast?.any (·.isLifetime) && !others.isEmpty
  joinedArguments (trailing || moved) (lifetimes ++ others)

section

variable (read : PhraseReader)

/-- A constant as an argument: a literal or a block. -/
def constantArgument : Reader (List Token) := do
  if atLiteral (← get) then literal else read.tokens (.block true)

/-- Bounds of an associated type, up to the end of the argument. -/
def argumentBounds : Reader (List Token) :=
  loop (fun done => do
    if atAnyMarks [",", ">"] (← get) then return (done, false)
    let next ← read.tokens (.bound true false)
    let plus ← marks? "+"
    return (done ++ next ++ plus, !plus.isEmpty)) []

/-- A generic argument: a lifetime, a constant, a type, or what an associated item has to be. -/
def genericArgument : Reader GenericArgument := do
  let ts ← get
  if atLifetime ts && !atMarks "+" (skipped ts) then return ⟨true, ← lifetime⟩
  if atLiteral ts || atGroup .brace ts then return ⟨false, ← constantArgument read⟩
  let type ← read (.type true)
  if type.shape ≠ .name then return ⟨false, type.tokens⟩
  let equals ← marks? "="
  if !equals.isEmpty then
    let ts ← get
    let value ←
      if atLiteral ts || atGroup .brace ts then constantArgument read else read.tokens (.type true)
    return ⟨false, type.tokens ++ equals ++ value⟩
  let colon ← marks? ":"
  if !colon.isEmpty then
    return ⟨false, type.tokens ++ colon ++ (← argumentBounds read)⟩
  return ⟨false, type.tokens⟩

/-- Arguments in angle brackets, which a double colon may come before. -/
def genericArguments : Reader (List Token) := do
  let colons ← marks? "::"
  let opening ← marks "<"
  let (as, trailing) ← loop (fun ((as, _) : List GenericArgument × Bool) => do
    if atMarks ">" (← get) then return ((as, !as.isEmpty), false)
    let next ← genericArgument read
    if atMarks ">" (← get) then return ((as ++ [next], false), false)
    let _ ← marks ","
    return ((as ++ [next], true), true)) ([], false)
  let closing ← marks ">"
  return colons ++ opening ++ arrangedArguments trailing as ++ closing

/-! ### Paths -/

/-- A name with its arguments, and whether it has any. -/
def pathSegment (inExpression : Bool) :
    Reader (List Token × Bool) := do
  if atAnyWord ["super", "self", "crate", "try"] (← get) then return (← take 1, false)
  expect fun ts => atIdentifier ts || atWord "Self" ts
  let name ← take 1
  let ts ← get
  let plain := !inExpression && atMarks "<" ts && !atAnyMarks ["<=", "<<="] ts
  let marked := atMarks "::" ts && atMarks "<" (skipped (skipped ts))
  if plain || marked then return (name ++ (← genericArguments read), true)
  return (name, false)

/-- A path with the names behind it.  Parentheses behind a double colon do not belong to it. -/
def pathRest (inExpression : Bool) (p : PathReading) :
    Reader PathReading :=
  loop (fun p => do
    let ts ← get
    if !atMarks "::" ts || atGroup .parenthesis (skipped (skipped ts)) then return (p, false)
    let colons ← marks "::"
    let (next, arguments) ← pathSegment read inExpression
    return (⟨p.tokens ++ colons ++ next, p.qualified, false, p.bare && !arguments, !arguments⟩,
      true)) p

/-- A path that does not start with a type. -/
def plainPath (inExpression : Bool) : Reader PathReading := do
  let colons ← marks? "::"
  let (first, arguments) ← pathSegment read inExpression
  pathRest read inExpression
    ⟨colons ++ first, false, colons.isEmpty, !arguments, !arguments⟩

/-- A path, which may start with a type in angle brackets and with the trait whose item it names. -/
def qualifiedPath (inExpression : Bool) : Reader PathReading := do
  if !atMarks "<" (← get) then return ← plainPath read inExpression
  let opening ← marks "<"
  let type ← read.tokens (.type true)
  let as ← word? "as"
  let traitPath ← if as.isEmpty then pure [] else (·.tokens) <$> plainPath read false
  let closing ← marks ">"
  let colons ← marks "::"
  loop (fun p => do
    let (next, arguments) ← pathSegment read inExpression
    let colons ← marks? "::"
    return (⟨p.tokens ++ next ++ colons, true, false, p.bare && !arguments, !arguments⟩,
      !colons.isEmpty))
    ⟨opening ++ type ++ as ++ traitPath ++ closing ++ colons, true, false, true, true⟩

/-! ### Attributes -/

/-- What stands in the brackets of an attribute: a path, and its arguments or its value. -/
def attributeContent : Reader (List Token) := do
  let path ← if atWord "unsafe" (← get) then take 1 else modulePath
  match ← get with
  | .group .. :: _ => return path ++ (← anyGroup)
  | ts =>
      if !atMarks "=" ts || atAnyMarks ["==", "=>"] ts then return path
      let equals ← marks "="
      let ts ← get
      let value ←
        if (literalAt? ts).any (·.length = ts.length) then literal
        else if atMarks "#" ts && atGroup .bracket (skipped ts) then failure
        else read.tokens (.expression true)
      return path ++ equals ++ value

/-- An attribute in its brackets, with the mark before it. -/
def attributeText (inner : Bool) : Reader (List Token) := do
  let hash ← marks "#"
  let bang ← if inner then marks "!" else pure []
  return hash ++ bang ++ (← inside .bracket (attributeContent read))

/-- The attributes that come next, of what follows them or of what they stand in. -/
def attributes (inner : Bool) : Reader (List Token) :=
  loop (fun done => do
    let ts ← get
    if atMarks "#" ts && (!inner || atMarks "!" (skipped ts)) then
      return (done ++ (← attributeText read inner), true)
    return (done, false)) []

end

end EntitySql.Source
