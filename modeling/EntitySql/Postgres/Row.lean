import EntitySql.Row.Basic
import EntitySql.Postgres.Wire

/-!
# Rows of Postgres

## Main definitions

* `Column`, `PostgresRow` : a column of a result, and a row with the bytes of its columns.
-/

namespace EntitySql.Postgres

/-- A column of a result. -/
structure Column where
  name : String
  type : WireType
deriving DecidableEq

/-- A row: its columns with their bytes, or none for null. -/
structure PostgresRow where
  cells : List (Column × Option (List UInt8))

namespace PostgresRow

/-- The names of the columns. -/
def names (r : PostgresRow) : List String :=
  r.cells.map fun cell => cell.1.name

/-- The value at a place.  An error names the column as the row spells it. -/
def valueAt (r : PostgresRow) (i : Nat) : Except Error Value :=
  match r.cells[i]? with
  | none => .error (columnOutOfRange i)
  | some (column, content) => (column.type.decode content).mapError (Error.ofFailure column.name)

instance : DataRow PostgresRow where
  ordinal? r := ordinalIn? r.names
  valueAt := valueAt

end PostgresRow

end EntitySql.Postgres
