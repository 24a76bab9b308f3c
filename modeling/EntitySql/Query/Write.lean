import EntitySql.Entity.Descriptor
import EntitySql.Query.Statement

/-!
# Insert, update and delete statements

The statements that write an entity bind one placeholder for each column they touch; no value stands
in their text, so they do not depend on the dialect.

## Main definitions

* `compileInsert` : inserts every column but the key.
* `compileUpdate` : sets every column but the key in the row with the key.
* `compileDelete` : deletes the row with a given key.
-/

namespace EntitySql

/-- The placeholder of a column. -/
def placeholderText (name : String) : String :=
  "@" ++ name

/-- A column with its placeholder on the right. -/
def assignment (name : String) : String :=
  name ++ " = " ++ placeholderText name

/-- The statement that inserts every column but the key. -/
def compileInsert (entity : Descriptor) : Except Error Statement :=
  let names := entity.nonKeyFields.map (·.name)
  if names = [] then
    .error (.validation ("entity " ++ entity.table ++ " has no insertable fields"))
  else
    .ok (.compiled .insert
      ("INSERT INTO " ++ entity.table ++ " (" ++ ", ".intercalate names ++ ") VALUES ("
        ++ ", ".intercalate (names.map placeholderText) ++ ")")
      (names.map Binding.deferred))

/-- The statement that sets every column but the key in the row with the key.  The key is bound
last. -/
def compileUpdate (entity : Descriptor) : Except Error Statement := do
  let key ← entity.keyField
  let names := entity.nonKeyFields.map (·.name)
  if names = [] then
    .error (.validation ("entity " ++ entity.table ++ " has no fields to update"))
  else
    .ok (.compiled .update
      ("UPDATE " ++ entity.table ++ " SET " ++ ", ".intercalate (names.map assignment)
        ++ " WHERE " ++ assignment key.name)
      (names.map Binding.deferred ++ [.deferred key.name]))

/-- The statement that deletes the row with a given key. -/
def compileDelete (entity : Descriptor) (keyValue : Value) : Except Error Statement := do
  let key ← entity.keyField
  .ok (.compiled .delete
    ("DELETE FROM " ++ entity.table ++ " WHERE " ++ assignment key.name)
    [.literal key.name keyValue])

end EntitySql
