import EntitySql.Error
import EntitySql.Expr.Basic

/-!
# Chains of members

A chain of members that starts at the row names a column; one that starts at a captured environment
names a variable.

## Main definitions

* `Expr.memberPath?` : the names of a chain that starts at the row.
* `Expr.slot?` : what the variable at the end of a captured chain holds.
* `Expr.memberPath` : the names of a chain, or an error that shows it.
-/

namespace EntitySql

/-- The names of a chain of members, from the row on. -/
abbrev ColumnPath : Type :=
  List String

/-- How SQL writes a column: its names with dots between them. -/
def columnText (path : ColumnPath) : String :=
  ".".intercalate path

namespace Expr

/-- The names of a chain of members that starts at the row. -/
def memberPath? : Expr → Option ColumnPath
  | .member target name =>
      match target with
      | .row => some [name]
      | .member t m => (memberPath? (.member t m)).map (· ++ [name])
      | _ => none
  | _ => none

/-- What the variable at the end of a chain holds, if the chain starts at a captured environment and
leads through nested ones. -/
def slot? : Expr → Option Captured
  | .member target name =>
      match target with
      | .captured env => Environment.get? env name
      | .member t m =>
          match slot? (.member t m) with
          | some (.nested env) => Environment.get? env name
          | _ => none
      | _ => none
  | _ => none

/-- The names of a chain of members, or an error that shows the chain. -/
def memberPath (e : Expr) : Except Error ColumnPath :=
  match memberPath? e with
  | some path => .ok path
  | none => .error (.unsupportedMember e.display)

end Expr

end EntitySql
