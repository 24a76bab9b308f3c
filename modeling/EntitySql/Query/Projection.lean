import EntitySql.Expr.Path

/-!
# Projections

A projection is one column or a record of columns.  One conversion around a column is dropped.

## Main definitions

* `Expr.projectedColumn` : the column of one item.
* `Expr.projectedColumns` : the columns of a projection.
-/

namespace EntitySql

namespace Expr

/-- The column of one item of a projection. -/
def projectedColumn : Expr → Except Error ColumnPath
  | .member target name => memberPath (.member target name)
  | .convert (.member target name) => memberPath (.member target name)
  | e => .error (.unsupportedProjection e.display)

/-- The columns of the items of a record, or the error of the first bad item. -/
def projectedItems : List Expr → Except Error (List ColumnPath)
  | [] => .ok []
  | e :: es => do
      let column ← projectedColumn e
      let columns ← projectedItems es
      .ok (column :: columns)

/-- The columns of a projection.  A record without items is no projection. -/
def projectedColumns : Expr → Except Error (List ColumnPath)
  | .record (e :: es) => projectedItems (e :: es)
  | e => (projectedColumn e).map fun column => [column]

end Expr

end EntitySql
