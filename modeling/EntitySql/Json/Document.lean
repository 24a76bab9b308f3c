import EntitySql.Json.Token

/-!
# JSON documents

The grammatical part of JSON: a tree in which members keep their order and may repeat, and numerals
and strings are as written.  The reader goes through the tokens once and keeps the arrays and
objects that are still open on a stack.

## Main definitions

* `Document` : the tree of a text.
* `ReadState`, `ReadState.step` : the reader.
* `Document.ofText?` : the tree of a text, if it is one JSON value.
-/

namespace EntitySql.Json

/-- The tree of a JSON text. -/
inductive Document where
  | null
  | bool (b : Bool)
  | number (n : Numeral)
  | string (units : List StringUnit)
  | array (items : List Document)
  | object (members : List (List StringUnit × Document))

/-- An array or object that is still open, with the parts read so far, last part first. -/
inductive Frame where
  | array (done : List Document)
  | object (done : List (List StringUnit × Document)) (key : List StringUnit)

/-- What the reader expects next.  The stack holds the open arrays and objects, innermost first. -/
inductive ReadState where
  /-- A value. -/
  | value (stack : List Frame)
  /-- The first item of an array, or its end. -/
  | firstItem (stack : List Frame)
  /-- The first name of an object, or its end. -/
  | firstName (stack : List Frame)
  /-- A name, behind a comma. -/
  | name (done : List (List StringUnit × Document)) (stack : List Frame)
  /-- The colon behind a name. -/
  | colon (done : List (List StringUnit × Document)) (key : List StringUnit) (stack : List Frame)
  /-- A comma or the end of the innermost array. -/
  | afterItem (done : List Document) (stack : List Frame)
  /-- A comma or the end of the innermost object. -/
  | afterMember (done : List (List StringUnit × Document)) (stack : List Frame)
  /-- Nothing: the value is complete. -/
  | complete (d : Document)

namespace ReadState

/-- The state behind a value. -/
def finish (d : Document) : List Frame → ReadState
  | [] => .complete d
  | .array done :: stack => .afterItem (d :: done) stack
  | .object done key :: stack => .afterMember ((key, d) :: done) stack

/-- The state behind the first token of a value. -/
def start? (stack : List Frame) : Token → Option ReadState
  | .null => some (finish .null stack)
  | .bool b => some (finish (.bool b) stack)
  | .number n => some (finish (.number n) stack)
  | .string units => some (finish (.string units) stack)
  | .openArray => some (.firstItem stack)
  | .openObject => some (.firstName stack)
  | _ => none

/-- The state behind a token, if the token may stand there. -/
def step : ReadState → Token → Option ReadState
  | .value stack, t => start? stack t
  | .firstItem stack, .closeArray => some (finish (.array []) stack)
  | .firstItem stack, t => start? (.array [] :: stack) t
  | .firstName stack, .closeObject => some (finish (.object []) stack)
  | .firstName stack, .string units => some (.colon [] units stack)
  | .name done stack, .string units => some (.colon done units stack)
  | .colon done key stack, .colon => some (.value (.object done key :: stack))
  | .afterItem done stack, .comma => some (.value (.array done :: stack))
  | .afterItem done stack, .closeArray => some (finish (.array done.reverse) stack)
  | .afterMember done stack, .comma => some (.name done stack)
  | .afterMember done stack, .closeObject => some (finish (.object done.reverse) stack)
  | _, _ => none

/-- The value that has been read, if it is complete. -/
def result? : ReadState → Option Document
  | .complete d => some d
  | _ => none

end ReadState

/-- The tree of a text, if the text is one JSON value. -/
def Document.ofText? (cs : List Char) : Option Document := do
  let ts ← tokens? cs
  let final ← ts.foldlM ReadState.step (.value [])
  final.result?

end EntitySql.Json
