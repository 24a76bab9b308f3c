import EntitySql.Literal
import EntitySql.Expr.Path

/-!
# Conditions

A condition is what a predicate means in SQL: comparisons of columns with literals or placeholders,
connected by AND and OR.  An expression is first turned into a condition, or refused; the condition
is then written in a dialect, and its placeholders are listed.

## Main definitions

* `Operand`, `Condition` : the right side of a comparison, and the conditions.
* `Condition.ofExpr` : the condition that an expression describes, or the first offence in it.
* `Condition.sql` : the text of a condition.
* `Condition.placeholders` : the names of its placeholders, in the order of first appearance.
-/

namespace EntitySql

/-- The right side of a comparison. -/
inductive Operand where
  | literal (v : Value)
  | placeholder (name : String)

/-- What a predicate means in SQL. -/
inductive Condition where
  | and (left right : Condition)
  | or (left right : Condition)
  | compare (column : ColumnPath) (comparison : Comparison) (operand : Operand)

/-! ### From expressions -/

/-- The comparison of an operator, or the error that it is none. -/
def BinaryOp.comparison (op : BinaryOp) : Except Error Comparison :=
  match op.comparison? with
  | some c => .ok c
  | none => .error (.unsupportedOperator op.name)

/-- The column on the left side of a comparison.  Conversions around it are dropped. -/
def Expr.column : Expr → Except Error ColumnPath
  | .member target name => Expr.memberPath (.member target name)
  | .convert e => column e
  | e => .error (.unsupportedExpression e.kind)

/-- The operand on the right side of a comparison.  A direct member of the row stands for the
placeholder of its name.  Conversions are dropped. -/
def Operand.ofExpr : Expr → Except Error Operand
  | .constant v => .ok (.literal v)
  | .param name => .ok (.placeholder name)
  | .convert e => ofExpr e
  | .member .row name => .ok (.placeholder name)
  | .member target name =>
      match Expr.slot? (.member target name) with
      | some (.value v) => .ok (.literal v)
      | _ => .error (.unsupportedMember (Expr.member target name).display)
  | e => .error (.unsupportedExpression e.kind)

/-- The condition that an expression describes.  Of several offences the first is reported: those of
the left part before those of the right part, and in a comparison the operator before its sides. -/
def Condition.ofExpr : Expr → Except Error Condition
  | .binary .andAlso lhs rhs => do
      let left ← ofExpr lhs
      let right ← ofExpr rhs
      .ok (.and left right)
  | .binary .orElse lhs rhs => do
      let left ← ofExpr lhs
      let right ← ofExpr rhs
      .ok (.or left right)
  | .binary op lhs rhs => do
      let comparison ← op.comparison
      let column ← lhs.column
      let operand ← Operand.ofExpr rhs
      .ok (.compare column comparison operand)
  | e => .error (.unsupportedExpression e.kind)

/-! ### Texts -/

/-- The part of a comparison behind its column.  Equality with null is a test of its own. -/
def Operand.test (dialect : Dialect) : Comparison → Operand → String
  | .equal, .literal .null => "IS NULL"
  | .notEqual, .literal .null => "IS NOT NULL"
  | c, .literal v => c.sql ++ " " ++ v.literal dialect
  | c, .placeholder name => c.sql ++ " @" ++ name

/-- The text of a condition.  Every comparison and every connection has its own parentheses. -/
def Condition.sql (dialect : Dialect) : Condition → String
  | .and left right => "(" ++ left.sql dialect ++ " AND " ++ right.sql dialect ++ ")"
  | .or left right => "(" ++ left.sql dialect ++ " OR " ++ right.sql dialect ++ ")"
  | .compare column comparison operand =>
      "(" ++ columnText column ++ " " ++ operand.test dialect comparison ++ ")"

/-! ### Placeholders -/

/-- The placeholder of an operand, if it is one. -/
def Operand.placeholders : Operand → List String
  | .literal _ => []
  | .placeholder name => [name]

/-- The placeholders of a condition from left to right, as often as they stand there. -/
def Condition.occurrences : Condition → List String
  | .and left right | .or left right => left.occurrences ++ right.occurrences
  | .compare _ _ operand => operand.placeholders

/-- The members of a list in the order of their first appearance, each once. -/
def firstOccurrences : List String → List String
  | [] => []
  | x :: xs => x :: (firstOccurrences xs).filter (· ≠ x)

/-- The placeholders of a condition in the order of their first appearance. -/
def Condition.placeholders (c : Condition) : List String :=
  firstOccurrences c.occurrences

theorem mem_firstOccurrences {x : String} (xs : List String) :
    x ∈ firstOccurrences xs ↔ x ∈ xs := by
  induction xs with
  | nil => simp [firstOccurrences]
  | cons y ys ih =>
      by_cases h : x = y
      · simp [firstOccurrences, h]
      · simp [firstOccurrences, h, ih]

theorem nodup_firstOccurrences (xs : List String) : (firstOccurrences xs).Nodup := by
  induction xs with
  | nil => simp [firstOccurrences]
  | cons y ys ih =>
      rw [firstOccurrences, List.nodup_cons]
      exact ⟨by simp, ih.filter _⟩

end EntitySql
