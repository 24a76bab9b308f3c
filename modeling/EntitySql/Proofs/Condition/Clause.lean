import EntitySql.Literal

/-!
# Reading conditions

A reader of conditions knows how they are written and nothing about where they come from.
Parentheses group: behind an opening one stands either another one, and then two groups with a
connective between them, or a comparison. A quote opens a text in which two quotes stand for one.

## Main definitions

* `Clause` : what is read.
* `Clause.ofText?` : the clause that a text denotes.

## Main results

* `readUpTo_append` : a token is read up to the character behind it.
* `readQuoted_doubleQuotes` : a quoted text is read up to its closing quote, whatever it holds.
-/

namespace EntitySql

/-- The right side of a comparison, as it is written. -/
inductive ClauseOperand where
  | placeholder (name : List Char)
  /-- A text in quotes, without them. -/
  | quoted (text : List Char)
  | bare (token : List Char)
deriving DecidableEq

/-- A condition, as it is written. A column is the list of the names between its dots. -/
inductive Clause where
  | and (left right : Clause)
  | or (left right : Clause)
  | isNull (column : List (List Char))
  | isNotNull (column : List (List Char))
  | compare (column : List (List Char)) (operator : List Char) (operand : ClauseOperand)
deriving DecidableEq

/-! ### Tokens -/

/-- The text up to the first `stop`, and what follows it. -/
def readUpTo (stop : Char) : List Char → Option (List Char × List Char)
  | [] => none
  | c :: cs =>
      if c = stop then some ([], cs)
      else (readUpTo stop cs).map fun r => (c :: r.1, r.2)

/-- The text up to the closing quote, in which two quotes stand for one, and what follows it. -/
def readQuoted : List Char → Option (List Char × List Char)
  | [] => none
  | '\'' :: '\'' :: cs => (readQuoted cs).map fun r => ('\'' :: r.1, r.2)
  | '\'' :: cs => some ([], cs)
  | c :: cs => (readQuoted cs).map fun r => (c :: r.1, r.2)

theorem readUpTo_append {stop : Char} {token : List Char} (h : ∀ c ∈ token, c ≠ stop)
    (rest : List Char) : readUpTo stop (token ++ stop :: rest) = some (token, rest) := by
  induction token with
  | nil => simp [readUpTo]
  | cons c token ih =>
      rw [List.forall_mem_cons] at h
      rw [List.cons_append, readUpTo, if_neg h.1, ih h.2]
      rfl

/-- A quoted text does not end before its closing quote. -/
theorem readQuoted_doubleQuotes (text : List Char) {rest : List Char}
    (h : ∀ cs, rest ≠ '\'' :: cs) :
    readQuoted (doubleQuotes text ++ '\'' :: rest) = some (text, rest) := by
  induction text with
  | nil =>
      rw [doubleQuotes, List.nil_append, readQuoted]
      exact fun cs hcs => h cs hcs
  | cons c text ih =>
      rw [doubleQuotes]
      split
      · next hc => rw [List.cons_append, List.cons_append, readQuoted, ih, hc]; rfl
      · next hc =>
          rw [List.cons_append, readQuoted, ih]
          · rfl
          · exact fun _ hc' _ => hc hc'
          · exact fun hc' => hc hc'

example : readQuoted "it''s') AND (b".toList = some ("it's".toList, ") AND (b".toList) := by decide

/-! ### Comparisons -/

/-- The right side of a comparison with the parenthesis behind it. -/
def readOperand : List Char → Option (ClauseOperand × List Char)
  | '@' :: cs => (readUpTo ')' cs).map fun r => (.placeholder r.1, r.2)
  | '\'' :: cs =>
      match readQuoted cs with
      | some (text, ')' :: cs) => some (.quoted text, cs)
      | _ => none
  | cs => (readUpTo ')' cs).map fun r => (.bare r.1, r.2)

/-- The clause of a test of a column. -/
def nullTest? (column : List (List Char)) (test : List Char) : Option Clause :=
  if test = ['N', 'U', 'L', 'L'] then some (.isNull column)
  else if test = ['N', 'O', 'T', ' ', 'N', 'U', 'L', 'L'] then some (.isNotNull column)
  else none

/-- A comparison behind its opening parenthesis. -/
def readComparison (cs : List Char) : Option (Clause × List Char) := do
  let (token, cs) ← readUpTo ' ' cs
  let column := List.splitOn '.' token
  let (operator, cs) ← readUpTo ' ' cs
  if operator = ['I', 'S'] then
    let (test, cs) ← readUpTo ')' cs
    (nullTest? column test).map fun clause => (clause, cs)
  else
    let (operand, cs) ← readOperand cs
    some (.compare column operator operand, cs)

/-! ### Groups -/

/-- A connective with the blanks around it. -/
def readConnective : List Char → Option ((Clause → Clause → Clause) × List Char)
  | ' ' :: 'A' :: 'N' :: 'D' :: ' ' :: cs => some (.and, cs)
  | ' ' :: 'O' :: 'R' :: ' ' :: cs => some (.or, cs)
  | _ => none

/-- The group that a text starts with, if it is not nested too deep, and what follows it. -/
def readGroup : Nat → List Char → Option (Clause × List Char)
  | depth + 1, '(' :: '(' :: cs => do
      let (left, cs) ← readGroup depth ('(' :: cs)
      let (connect, cs) ← readConnective cs
      let (right, cs) ← readGroup depth cs
      match cs with
      | ')' :: cs => some (connect left right, cs)
      | _ => none
  | _ + 1, '(' :: cs => readComparison cs
  | _, _ => none

/-- The clause that a text denotes, if it is one group and nothing else. A group is nested no deeper
than its text is long. -/
def Clause.ofText? (cs : List Char) : Option Clause :=
  match readGroup cs.length cs with
  | some (clause, []) => some clause
  | _ => none

end EntitySql
