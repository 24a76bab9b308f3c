import EntitySql.Source.Path

/-!
# Types and bounds

The types that may stand in a path: paths, tuples, arrays, references, functions and sums of bounds.

## Main definitions

* `binder` : the lifetimes that a bound or a function is about.
* `typePath` : a path as a type, whose names may have arguments in parentheses.
* `bounds`, `boundPhrase` : what a type has to be.
* `typePhrase` : a type.
-/

namespace EntitySql.Source

variable (read : PhraseReader)

/-- The lifetimes that what follows is about, if they are given. -/
def binder : Reader (List Token) := do
  if !atWord "for" (← get) then return []
  let start ← word "for"
  let opening ← marks "<"
  let names ← loop (fun done => do
    if atMarks ">" (← get) then return (done, false)
    let before ← attributes read false
    let name ← lifetime
    if atMarks ">" (← get) then return (done ++ before ++ name, false)
    let comma ← marks ","
    return (done ++ before ++ name ++ comma, true)) []
  return start ++ opening ++ names ++ (← marks ">")

/-! ### Arguments in parentheses -/

/-- The type that a function returns, if it is given. -/
def returnType : Reader (Option Reading) := do
  let arrow ← marks? "->"
  if arrow.isEmpty then return none
  let type ← read (.type false)
  return some { type with tokens := arrow ++ type.tokens }

/-- The arguments and the result of a function as arguments of a name, and whether more names may
follow. -/
def callArguments : Reader (List Token × Bool) := do
  let arguments ← inside .parenthesis (commaSeparated (read.tokens (.type true)))
  match ← returnType read with
  | none => return (arguments, true)
  | some result => return (arguments ++ result.tokens, result.shape = .enclosed)

/-- Whether arguments in parentheses come next, maybe behind a double colon. -/
def atCallArguments (ts : List Token) : Bool :=
  atGroup .parenthesis ts || (atMarks "::" ts && atGroup .parenthesis (skipped (skipped ts)))

/-- A path as a type.  A double colon before arguments in parentheses is left out. -/
def typePath : Reader (PathReading × Bool) := do
  let start ← qualifiedPath read false
  loop (fun ((p, called) : PathReading × Bool) => do
    if !(p.openEnd && atCallArguments (← get)) then return ((p, called), false)
    let _ ← marks? "::"
    let (arguments, more) ← callArguments read
    let p := { p with tokens := p.tokens ++ arguments, bare := false, openEnd := false }
    let p ← if more then pathRest read false p else pure p
    return ((p, true), true)) (start, false)

/-! ### Bounds -/

/-- What an opaque type captures. -/
def capture : Reader (List Token) := do
  let start ← word "use"
  let opening ← marks "<"
  let names ← loop (fun done => do
    if atMarks ">" (← get) then return (done, false)
    let ts ← get
    let name ←
      if atLifetime ts then lifetime else if atWord "Self" ts then take 1 else identifier
    if atMarks ">" (← get) then return (done ++ name, false)
    let comma ← marks ","
    return (done ++ name ++ comma, true)) []
  return start ++ opening ++ names ++ (← marks ">")

/-- A trait that a type has to have. -/
def traitBound (constant : Bool) : Reader (List Token) := do
  let outer ← binder read
  let qualifier ←
    if atGroup .bracket (← get) then inside .bracket (word "const") else word? "const"
  if !qualifier.isEmpty && !constant then failure
  let maybe ← marks? "?"
  let inner ← if outer.isEmpty && !maybe.isEmpty then binder read else pure []
  let path ← plainPath read false
  let arguments ←
    if path.openEnd && atCallArguments (← get) then do
      let _ ← marks? "::"
      let (arguments, _) ← callArguments read
      pure arguments
    else pure []
  return outer ++ qualifier ++ maybe ++ inner ++ path.tokens ++ arguments

/-- A bound: a lifetime, what is captured, or a trait, which may stand in parentheses. -/
def boundPhrase (constant captures : Bool) : Reader (List Token) := do
  let ts ← get
  if atLifetime ts then return ← lifetime
  if atWord "use" ts then
    if captures then return ← capture else failure
  if atGroup .parenthesis ts then return ← inside .parenthesis (traitBound read constant)
  traitBound read constant

/-- Whether another bound follows a plus. -/
def atNextBound (constant : Bool) : List Token → Bool
  | .word _ :: _ => true
  | ts => atAnyMarks ["::", "?"] ts || atLifetime ts || atGroup .parenthesis ts
      || (constant && atGroup .bracket ts)

/-- Bounds with pluses between them, at least one of them a trait. -/
def bounds (sums captures : Bool) : Reader (List Token) := do
  let (tokens, found) ← loop (fun ((done, found) : List Token × Bool) => do
    let found := found || !atLifetime (← get)
    let next ← read.tokens (.bound true captures)
    if !(sums && atMarks "+" (← get)) then return ((done ++ next, found), false)
    let plus ← marks "+"
    return ((done ++ next ++ plus, found), atNextBound true (← get))) ([], false)
  if found then return tokens else failure

/-- The bounds behind the first one, each after a plus. -/
def furtherBounds : Reader (List Token) :=
  loop (fun done => do
    let plus ← marks? "+"
    if plus.isEmpty then return (done, false)
    return (done ++ plus ++ (← read.tokens (.bound false false)), true)) []

/-! ### Types -/

/-- What stands in the parentheses of a type. -/
inductive EnclosedType where
  /-- Nothing, or types with commas. -/
  | tuple
  /-- Bounds that start with a lifetime. -/
  | sum
  /-- A bound that need not hold. -/
  | optionalBound
  /-- One type. -/
  | single (shape : Shape)

/-- The content of the parentheses of a type. -/
def enclosedType : Reader (List Token × EnclosedType) := do
  let ts ← get
  if ts.isEmpty then return ([], .tuple)
  if atLifetime ts then return (← bounds read true false, .sum)
  if atMarks "?" ts then return (← traitBound read false, .optionalBound)
  let first ← read (.type true)
  let comma ← marks? ","
  if comma.isEmpty then return (first.tokens, .single first.shape)
  return (first.tokens ++ comma ++ (← commaSeparated (read.tokens (.type true))), .tuple)

/-- A type that starts with parentheses. -/
def parenthesizedType (sums : Bool) : Reader Reading := do
  let (content, kind) ← within .parenthesis (enclosedType read)
  let group := [Token.group .parenthesis content]
  match kind with
  | .tuple => return ⟨group, .other⟩
  | .sum => return ⟨group, .enclosed⟩
  | .optionalBound =>
      let more ← furtherBounds read
      return ⟨group ++ more, if more.isEmpty then .bound else .other⟩
  | .single shape =>
      if sums && atMarks "+" (← get) && (shape = .name || shape = .path || shape = .bound) then
        return ⟨group ++ (← furtherBounds read), .other⟩
      return ⟨group, .enclosed⟩

/-- An argument of a function type, which may have a name. -/
def functionArgument : Reader (List Token) := do
  let before ← attributes read false
  let ts ← get
  let name ←
    if (atIdentifier ts || atAnyWord ["_", "self"] ts) && atMarks ":" (skipped ts)
        && !atMarks "::" (skipped ts) then
      take 2
    else pure []
  let ts ← get
  if atMarks "..." ts then return before ++ name ++ (← marks "...")
  if atWord "mut" ts && atWord "self" (skipped ts) then return before ++ name ++ (← take 2)
  return before ++ name ++ (← read.tokens (.type true))

/-- A function type behind its binder. -/
def functionType : Reader (List Token) := do
  let safety ← word? "unsafe"
  let linkage ← word? "extern"
  let convention ←
    match ← get with
    | .literal text :: _ =>
        if !linkage.isEmpty && ['"', 'r'].any (text.toList.head? == some ·) then take 1
        else pure []
    | _ => pure []
  let keyword ← word "fn"
  let arguments ← inside .parenthesis (commaSeparated (functionArgument read))
  let result ← returnType read
  return safety ++ linkage ++ convention ++ keyword ++ arguments
    ++ ((result.map (·.tokens)).getD [])

/-- The shape of a path as a type. -/
def pathShape (p : PathReading) (called : Bool) : Shape :=
  if p.qualified then .other else if p.single && !called then .name else .path

/-- A type that starts with a path. -/
def namedType (sums : Bool) (about : List Token) : Reader Reading := do
  let (p, called) ← typePath read
  if p.qualified then return ⟨p.tokens, .other⟩
  if p.bare && atMarks "!" (← get) && !atMarks "!=" (← get) then
    let bang ← marks "!"
    return ⟨p.tokens ++ bang ++ (← anyGroup), .other⟩
  if !about.isEmpty || (sums && atMarks "+" (← get)) then
    let more ← loop (fun done => do
      if !(sums && atMarks "+" (← get)) then return (done, false)
      let plus ← marks "+"
      if !atNextBound false (← get) then return (done ++ plus, false)
      return (done ++ plus ++ (← read.tokens (.bound false false)), true)) []
    return ⟨about ++ p.tokens ++ more, if more.isEmpty then .bound else .other⟩
  return ⟨p.tokens, pathShape p called⟩

/-- An array or a slice. -/
def listType : Reader (List Token) :=
  inside .bracket do
    let element ← read.tokens (.type true)
    let semicolon ← marks? ";"
    if semicolon.isEmpty then return element
    return element ++ semicolon ++ (← read.tokens (.expression true))

/-- Whether a path starts here. -/
def atPath (ts : List Token) : Bool :=
  atIdentifier ts || atAnyWord ["super", "self", "Self", "crate"] ts || atAnyMarks ["::", "<"] ts

/-- A type. -/
def typePhrase (sums : Bool) : Reader Reading := do
  let plain (tokens : Reader (List Token)) : Reader Reading := do return ⟨← tokens, .other⟩
  let about ← binder read
  let ts ← get
  if atAnyWord ["fn", "unsafe", "extern"] ts then
    return ⟨about ++ (← functionType read), .other⟩
  if !about.isEmpty then
    expect fun ts => atIdentifier ts || atAnyWord ["super", "self", "Self", "crate"] ts
    return ← namedType read sums about
  if atGroup .parenthesis ts then return ← parenthesizedType read sums
  if atPath ts then return ← namedType read sums []
  if atWord "dyn" ts then
    return ← plain do
      let keyword ← word "dyn"
      let star ← marks? "*"
      return keyword ++ star ++ (← bounds read sums false)
  if atGroup .bracket ts then return ← plain (listType read)
  if atMarks "*" ts then
    return ← plain do
      let star ← marks "*"
      let kind ← anyWord ["const", "mut"]
      return star ++ kind ++ (← read.tokens (.type false))
  if atMarks "&" ts then
    return ← plain do
      let mark ← marks "&"
      let name ← lifetime?
      let mutable ← word? "mut"
      return mark ++ name ++ mutable ++ (← read.tokens (.type false))
  if atMarks "!" ts then return ← plain (marks "!")
  if atWord "impl" ts then
    return ← plain do
      let keyword ← word "impl"
      return keyword ++ (← bounds read sums true)
  if atWord "_" ts then return ← plain (word "_")
  expect atLifetime
  plain (bounds read true false)

end EntitySql.Source
