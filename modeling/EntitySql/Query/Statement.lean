import EntitySql.Text.Blank
import EntitySql.Value.Basic

/-!
# Statements

A statement is a text with `@name` placeholders and the list of its bindings.  It is compiled from a
description or written by hand.

## Main definitions

* `StatementKind` : what a statement does.
* `Binding` : a placeholder with the value it has, or none if the value comes with the execution.
* `Statement` : a text with its bindings.
* `StatementKind.ofSql` : the kind of a text, by its first word.
* `Statement.keyColumn?` : the column that a compiled update or delete is matched on.
-/

namespace EntitySql

open Text

/-- What a statement does. -/
inductive StatementKind where
  | select
  | insert
  | update
  | delete
  | other
deriving DecidableEq

namespace StatementKind

/-- The keyword of a kind. -/
def name : StatementKind → String
  | select => "select"
  | insert => "insert"
  | update => "update"
  | delete => "delete"
  | other => "other"

/-- The kind of a text, by its first word in any case. -/
def ofSql (sql : String) : StatementKind :=
  let word := String.ofList ((firstWord sql.toList).map Char.toLower)
  if word = select.name then select
  else if word = insert.name then insert
  else if word = update.name then update
  else if word = delete.name then delete
  else other

end StatementKind

/-- A placeholder.  Its value is known, or comes from the argument of the execution. -/
structure Binding where
  name : String
  known : Option Value

namespace Binding

/-- A placeholder whose value comes from the argument. -/
def deferred (name : String) : Binding :=
  ⟨name, none⟩

/-- A placeholder whose value is known. -/
def literal (name : String) (v : Value) : Binding :=
  ⟨name, some v⟩

/-- Whether the value comes from the argument. -/
def isDeferred (b : Binding) : Bool :=
  b.known.isNone

@[simp]
theorem name_deferred (name : String) : (deferred name).name = name := rfl

@[simp]
theorem map_name_map_deferred (names : List String) :
    (names.map deferred).map (·.name) = names := by
  simp [Function.comp_def]

end Binding

/-- A text with its bindings, in the order of its placeholders. -/
structure Statement where
  kind : StatementKind
  sql : String
  bindings : List Binding
  /-- Whether the text was written by hand. -/
  raw : Bool

namespace Statement

/-- The statement that has not been compiled. -/
def empty : Statement :=
  ⟨.select, "", [], false⟩

/-- A statement from the compiler. -/
def compiled (kind : StatementKind) (sql : String) (bindings : List Binding) : Statement :=
  ⟨kind, sql, bindings, false⟩

/-- A statement written by hand. -/
def handwritten (kind : StatementKind) (sql : String) (bindings : List Binding) : Statement :=
  ⟨kind, sql, bindings, true⟩

variable (s : Statement)

/-- Whether there is no text. -/
def isEmpty : Bool :=
  s.sql = ""

/-- The names of the placeholders. -/
def names : List String :=
  s.bindings.map (·.name)

/-- The names of the placeholders whose values come from the argument. -/
def deferredNames : List String :=
  (s.bindings.filter (·.isDeferred)).map (·.name)

/-- The column that a compiled update or delete is matched on: its last placeholder. -/
def keyColumn? : Option String :=
  if s.raw then none
  else match s.kind with
    | .update | .delete => s.bindings.getLast?.map (·.name)
    | _ => none

end Statement

end EntitySql
