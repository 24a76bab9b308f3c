import EntitySql.Sorted
import EntitySql.Value.Basic
import EntitySql.Expr.Operator

/-!
# Expressions

Predicates and projections are described by expressions over the row of an entity.  An expression
may refer to variables of an environment that was captured when it was built; an environment is only
reached through a chain of members.

## Main definitions

* `Captured`, `Environment` : captured variables, which hold values or nested environments.
* `Expr` : the expressions.
* `Expr.path` : the chain of members that a dotted name denotes.
* `Expr.display`, `Expr.kind` : how diagnostics show an expression and name its outermost node.
* `Expr.agrees` : equality in which doubles are compared as numbers.
-/

namespace EntitySql

/-- What a captured variable holds. -/
inductive Captured where
  | value (v : Value)
  | nested (vars : List (String × Captured))

/-- Captured variables, sorted by name. -/
abbrev Environment : Type :=
  List (String × Captured)

namespace Environment

/-- The environment without variables. -/
def empty : Environment := []

/-- Adds a variable that holds a value; a variable of the same name is replaced. -/
def bind (env : Environment) (name : String) (v : Value) : Environment :=
  insertByName name (.value v) env

/-- Adds a variable that holds an environment; a variable of the same name is replaced. -/
def nest (env : Environment) (name : String) (inner : Environment) : Environment :=
  insertByName name (.nested inner) env

/-- What a variable holds. -/
def get? (env : Environment) (name : String) : Option Captured :=
  env.lookup name

theorem get?_bind (env : Environment) (name key : String) (v : Value) :
    (env.bind name v).get? key = if key = name then some (.value v) else env.get? key :=
  lookup_insertByName name key (Captured.value v) env

theorem get?_nest (env : Environment) (name key : String) (inner : Environment) :
    (env.nest name inner).get? key = if key = name then some (.nested inner) else env.get? key :=
  lookup_insertByName name key (Captured.nested inner) env

end Environment

/-- An expression over the row of an entity. -/
inductive Expr where
  /-- The row itself. -/
  | row
  /-- A parameter that is bound when the statement runs. -/
  | param (name : String)
  | constant (v : Value)
  /-- A captured environment. -/
  | captured (env : Environment)
  | member (target : Expr) (name : String)
  | binary (op : BinaryOp) (lhs rhs : Expr)
  | not (e : Expr)
  /-- Several expressions side by side. -/
  | record (items : List Expr)
  /-- A conversion, which has no meaning in SQL. -/
  | convert (e : Expr)

namespace Expr

/-- A member of the row. -/
def field (name : String) : Expr :=
  .member .row name

/-- The chain of members that a dotted name denotes. -/
def path (dotted : String) : Expr :=
  (List.splitOn '.' dotted.toList).foldl (fun e name => .member e (String.ofList name)) .row

/-- A variable of a captured environment. -/
def variableOf (env : Environment) (name : String) : Expr :=
  .member (.captured env) name

/-- An expression wrapped in a number of conversions. -/
def converted (e : Expr) : Nat → Expr
  | 0 => e
  | n + 1 => .convert (converted e n)

/-- An expression under a number of negations. -/
def negated (e : Expr) : Nat → Expr
  | 0 => e
  | n + 1 => .not (negated e n)

/-- The name of the outermost node in errors. -/
def kind : Expr → String
  | row => "Parameter"
  | param _ => "QueryParameter"
  | constant _ => "Constant"
  | captured _ => "Captured"
  | member _ _ => "MemberAccess"
  | binary op _ _ => op.name
  | not _ => "Not"
  | record _ => "New"
  | convert _ => "Convert"

mutual

/-- The text of an expression in diagnostics. -/
def display : Expr → String
  | .row => "row"
  | .param name => "@" ++ name
  | .constant v => v.display
  | .captured _ => "<captured>"
  | .member target name => display target ++ "." ++ name
  | .binary op lhs rhs => "(" ++ display lhs ++ " " ++ op.symbol ++ " " ++ display rhs ++ ")"
  | .not e => "!" ++ display e
  | .record items => "\x7b" ++ ", ".intercalate (displayItems items) ++ "\x7d"
  | .convert e => "convert(" ++ display e ++ ")"

/-- The texts of the items of a record. -/
def displayItems : List Expr → List String
  | [] => []
  | e :: es => display e :: displayItems es

end

end Expr

/-! ### Equality -/

mutual

/-- Equality of captured variables in which doubles are compared as numbers. -/
def Captured.agrees : Captured → Captured → Bool
  | .value a, .value b => a.agrees b
  | .nested a, .nested b => Captured.varsAgree a b
  | _, _ => false

/-- Variable by variable, with the same names. -/
def Captured.varsAgree : List (String × Captured) → List (String × Captured) → Bool
  | [], [] => true
  | (k, a) :: as, (l, b) :: bs => k == l && Captured.agrees a b && Captured.varsAgree as bs
  | _, _ => false

end

mutual

/-- Equality of expressions in which doubles are compared as numbers. -/
def Expr.agrees : Expr → Expr → Bool
  | .row, .row => true
  | .param a, .param b => a == b
  | .constant a, .constant b => a.agrees b
  | .captured a, .captured b => Captured.varsAgree a b
  | .member a m, .member b n => Expr.agrees a b && m == n
  | .binary o a c, .binary p b d => o == p && Expr.agrees a b && Expr.agrees c d
  | .not a, .not b => Expr.agrees a b
  | .record as, .record bs => Expr.itemsAgree as bs
  | .convert a, .convert b => Expr.agrees a b
  | _, _ => false

/-- Item by item. -/
def Expr.itemsAgree : List Expr → List Expr → Bool
  | [], [] => true
  | a :: as, b :: bs => Expr.agrees a b && Expr.itemsAgree as bs
  | _, _ => false

end

end EntitySql
