import EntitySql.Entity.Descriptor
import EntitySql.Query.Condition
import EntitySql.Query.Projection
import EntitySql.Query.Join
import EntitySql.Query.Statement

/-!
# Select statements

A selection is described by a projection, joins and a predicate.  It is compiled against the
descriptor of an entity.

## Main definitions

* `compileSelect` : the statement of a projection, a predicate and joins.
* `Selection` : a description that is built step by step.
* `Selection.compile` : the statement of a description.
-/

namespace EntitySql

/-- The list of columns behind the keyword; without a projection all of them. -/
def columnList : Option Expr → Except Error String
  | none => .ok "*"
  | some e => (e.projectedColumns).map fun columns => ", ".intercalate (columns.map columnText)

/-- The condition of a predicate, if there is a predicate. -/
def conditionOf? : Option Expr → Except Error (Option Condition)
  | none => .ok none
  | some e => (Condition.ofExpr e).map some

/-- The text of the clause that a condition stands in. -/
def whereClause (dialect : Dialect) : Option Condition → String
  | none => ""
  | some c => " WHERE " ++ c.sql dialect

/-- The deferred bindings of a condition. -/
def conditionBindings : Option Condition → List Binding
  | none => []
  | some c => c.placeholders.map Binding.deferred

/-- The statement that selects from the table of an entity.  The projection is checked first, then
the joins, then the predicate. -/
def compileSelect (dialect : Dialect) (entity : Descriptor) (projection predicate : Option Expr)
    (joins : List JoinClause) : Except Error Statement := do
  let columns ← columnList projection
  let joinText ← joinsSql joins
  let condition ← conditionOf? predicate
  .ok (.compiled .select
    ("SELECT " ++ columns ++ " FROM " ++ entity.table ++ joinText ++ whereClause dialect condition)
    (conditionBindings condition))

/-- A description of a selection. -/
structure Selection where
  projection : Option Expr
  predicate : Option Expr
  joins : List JoinClause

namespace Selection

/-- The description that selects every column of every row. -/
def all : Selection :=
  ⟨none, none, []⟩

/-- Sets the projection. -/
def select (q : Selection) (e : Expr) : Selection :=
  { q with projection := some e }

/-- Adds a predicate; it is connected to the one before it by AND. -/
def filter (q : Selection) (e : Expr) : Selection :=
  { q with
    predicate := match q.predicate with
      | none => some e
      | some before => some (.binary .andAlso before e) }

/-- Adds a join behind the others. -/
def join (q : Selection) (j : JoinClause) : Selection :=
  { q with joins := q.joins ++ [j] }

/-- Replaces all joins. -/
def withJoins (q : Selection) (js : List JoinClause) : Selection :=
  { q with joins := js }

/-- The statement of a description. -/
def compile (q : Selection) (dialect : Dialect) (entity : Descriptor) : Except Error Statement :=
  compileSelect dialect entity q.projection q.predicate q.joins

end Selection

end EntitySql
