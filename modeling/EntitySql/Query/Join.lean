import EntitySql.Error

/-!
# Joins

A join names two tables and the two columns that must agree.  Clauses are written in the order in
which they were added.

## Main definitions

* `JoinKind`, `JoinClause` : the kinds of joins, and a join.
* `JoinClause.missingPart?` : the first part of a clause that has no name.
* `JoinClause.sql` : the text of a clause, or the error that a part is missing.
-/

namespace EntitySql

/-- The kinds of joins. -/
inductive JoinKind where
  | inner
  | left
  | right
  | full
deriving DecidableEq

/-- The keywords of a join. -/
def JoinKind.keyword : JoinKind → String
  | inner => "INNER JOIN"
  | left => "LEFT JOIN"
  | right => "RIGHT JOIN"
  | full => "FULL JOIN"

/-- A join of a secondary table to a primary one. -/
structure JoinClause where
  kind : JoinKind
  primaryTable : String
  secondaryTable : String
  primaryKey : String
  foreignKey : String
deriving DecidableEq

namespace JoinClause

/-- The first part of a clause that has no name. -/
def missingPart? (j : JoinClause) : Option String :=
  if j.primaryTable = "" then some "primary table"
  else if j.secondaryTable = "" then some "secondary table"
  else if j.primaryKey = "" then some "primary key"
  else if j.foreignKey = "" then some "foreign key"
  else none

/-- The text of a clause whose parts all have names. -/
def text (j : JoinClause) : String :=
  j.kind.keyword ++ " " ++ j.secondaryTable ++ " ON " ++ j.primaryTable ++ "." ++ j.primaryKey
    ++ " = " ++ j.secondaryTable ++ "." ++ j.foreignKey

/-- The text of a clause, or the error that a part is missing. -/
def sql (j : JoinClause) : Except Error String :=
  match j.missingPart? with
  | some part => .error (.validation ("join clause is missing its " ++ part))
  | none => .ok j.text

end JoinClause

/-- The texts of clauses, each behind a space, or the error of the first incomplete one. -/
def joinsSql : List JoinClause → Except Error String
  | [] => .ok ""
  | j :: js => do
      let text ← j.sql
      let rest ← joinsSql js
      .ok (" " ++ text ++ rest)

end EntitySql
