import EntitySql.Entity.Basic
import EntitySql.Query.Statement
import EntitySql.Row.Basic

/-!
# Binding arguments

The bindings of a statement get their values from an argument: a single value, a record, a list of
parameters, or an entity.

## Main definitions

* `Param` : a name with the value bound to it.
* `Argument` : what placeholders can be bound from.
* `Statement.bind` : the parameters of a statement.
-/

namespace EntitySql

/-- A value bound to the placeholder of its name. -/
structure Param where
  name : String
  value : Value

/-- What placeholders can be bound from: it may be a single value, and it may have fields. -/
structure Argument where
  scalar? : Option Value
  field? : String → Option Value

namespace Argument

/-- A single value. -/
def ofValue (v : Value) : Argument :=
  ⟨some v, fun _ => none⟩

/-- The columns of a record. -/
def ofRecord (r : Record) : Argument :=
  ⟨none, r.field?⟩

/-- A list of parameters; of several with one name the first counts. -/
def ofParams (ps : List Param) : Argument :=
  ⟨none, fun name => (ps.find? (·.name = name)).map (·.value)⟩

/-- The columns of an entity. -/
def ofEntity {α : Type} (E : EntityType α) (a : α) : Argument :=
  ⟨none, E.get? a⟩

/-- The value for the only placeholder of a statement: the single value, or else the field of its
name, or else null. -/
def alone (a : Argument) (name : String) : Value :=
  (a.scalar?.or (a.field? name)).getD .null

/-- The value for one of several placeholders: the field of its name, or else null. -/
def among (a : Argument) (name : String) : Value :=
  (a.field? name).getD .null

end Argument

/-- The value of a binding.  A value that is known stays; without an argument it is null. -/
def Binding.resolve (single : Bool) (arg : Option Argument) (b : Binding) : Value :=
  match b.known, arg with
  | some v, _ => v
  | none, some a => if single then a.alone b.name else a.among b.name
  | none, none => .null

/-- The parameters of a statement.  A statement without bindings has none to bind, and deferred
bindings need an argument. -/
def Statement.bind (s : Statement) (arg : Option Argument) : Except Error (List Param) :=
  if s.bindings = [] then .error (.nullArgument "properties")
  else if s.bindings.any (·.isDeferred) && arg.isNone then .error (.nullArgument "entity")
  else
    .ok (s.bindings.map fun b => ⟨b.name, b.resolve (s.bindings.length = 1) arg⟩)

end EntitySql
