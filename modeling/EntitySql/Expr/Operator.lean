/-!
# Operators of expressions

## Main definitions

* `BinaryOp` : the operators that an expression can have.
* `BinaryOp.name`, `BinaryOp.symbol` : how diagnostics name and show an operator.
* `Comparison` : the operators that compare a column with an operand.
* `BinaryOp.comparison?` : the comparison that an operator stands for.
-/

namespace EntitySql

/-- The operators between two expressions.  Only the logical and the comparing ones have a meaning
in SQL; the others exist so that a description can be refused with a precise error. -/
inductive BinaryOp where
  | andAlso
  | orElse
  | equal
  | notEqual
  | lessThan
  | lessThanOrEqual
  | greaterThan
  | greaterThanOrEqual
  | add
  | subtract
  | multiply
  | divide
  | modulo
  | bitAnd
  | bitOr
  | bitXor
deriving DecidableEq

namespace BinaryOp

/-- The name of an operator in errors. -/
def name : BinaryOp → String
  | andAlso => "AndAlso"
  | orElse => "OrElse"
  | equal => "Equal"
  | notEqual => "NotEqual"
  | lessThan => "LessThan"
  | lessThanOrEqual => "LessThanOrEqual"
  | greaterThan => "GreaterThan"
  | greaterThanOrEqual => "GreaterThanOrEqual"
  | add => "Add"
  | subtract => "Subtract"
  | multiply => "Multiply"
  | divide => "Divide"
  | modulo => "Modulo"
  | bitAnd => "And"
  | bitOr => "Or"
  | bitXor => "ExclusiveOr"

/-- The sign of an operator in the display of an expression. -/
def symbol : BinaryOp → String
  | andAlso => "&&"
  | orElse => "||"
  | equal => "=="
  | notEqual => "!="
  | lessThan => "<"
  | lessThanOrEqual => "<="
  | greaterThan => ">"
  | greaterThanOrEqual => ">="
  | add => "+"
  | subtract => "-"
  | multiply => "*"
  | divide => "/"
  | modulo => "%"
  | bitAnd => "&"
  | bitOr => "|"
  | bitXor => "^"

end BinaryOp

/-- The comparisons of SQL. -/
inductive Comparison where
  | equal
  | notEqual
  | less
  | lessOrEqual
  | greater
  | greaterOrEqual
deriving DecidableEq

/-- How SQL writes a comparison. -/
def Comparison.sql : Comparison → String
  | equal => "="
  | notEqual => "<>"
  | less => "<"
  | lessOrEqual => "<="
  | greater => ">"
  | greaterOrEqual => ">="

/-- The comparison that an operator stands for, if it compares. -/
def BinaryOp.comparison? : BinaryOp → Option Comparison
  | equal => some .equal
  | notEqual => some .notEqual
  | lessThan => some .less
  | lessThanOrEqual => some .lessOrEqual
  | greaterThan => some .greater
  | greaterThanOrEqual => some .greaterOrEqual
  | _ => none

end EntitySql
