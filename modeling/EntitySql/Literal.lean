import EntitySql.Value.Basic

/-!
# SQL literals

A value that is known when a statement is compiled stands in its text as a literal.  Everything but
numbers, truth values and null is quoted.

## Main definitions

* `Dialect` : the two ways to write truth values.
* `sqlQuoted` : a text in single quotes, with each quote inside it doubled.
* `Value.literal` : the literal of a value in a dialect.
-/

namespace EntitySql

open Numeric Text

/-- How truth values are written. -/
inductive Dialect where
  /-- As the bits `1` and `0`. -/
  | tSql
  /-- As `TRUE` and `FALSE`. -/
  | postgres
deriving DecidableEq

instance : Inhabited Dialect := ⟨.tSql⟩

/-- The literal of a truth value. -/
def Dialect.boolLiteral : Dialect → Bool → String
  | tSql, true => "1"
  | tSql, false => "0"
  | postgres, true => "TRUE"
  | postgres, false => "FALSE"

/-- Each single quote doubled. -/
def doubleQuotes : List Char → List Char
  | [] => []
  | c :: cs => if c = '\'' then '\'' :: '\'' :: doubleQuotes cs else c :: doubleQuotes cs

/-- A text in single quotes. -/
def sqlQuoted (cs : List Char) : String :=
  String.ofList ('\'' :: doubleQuotes cs ++ ['\''])

/-- The literal of a double: its digits, or a quoted name if it is not finite. -/
def doubleLiteral (x : Double) : String :=
  if x.isNaN then sqlQuoted ['N', 'a', 'N']
  else if x.isInfinite then sqlQuoted ((if x.isNegative then ['-'] else []) ++ "Infinity".toList)
  else x.text

/-- The literal of a value. -/
def Value.literal (dialect : Dialect) : Value → String
  | .null => "NULL"
  | .bool b => dialect.boolLiteral b
  | .int n => String.ofList (signedNumeral n.val)
  | .float x => doubleLiteral x
  | .text s => sqlQuoted s.toList
  | .uuid u => sqlQuoted u.text
  | .date d => sqlQuoted d.text
  | .timestamp t => sqlQuoted (t.text ' ')
  | .timestampTz t => sqlQuoted t.rfc3339
  | .json j => sqlQuoted j.write

end EntitySql
