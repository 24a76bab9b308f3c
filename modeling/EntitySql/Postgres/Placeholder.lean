import EntitySql.Text.Decimal
import EntitySql.Text.Word

/-!
# Positional placeholders

Postgres numbers the parameters of a statement.  A text with `@name` placeholders is cut into
pieces: string literals, placeholders, and single other characters.  Each placeholder with a known
name becomes `$k`, where `k` is the slot of the name; slots are given in the order of first use.
All other pieces stay as they are.

## Main definitions

* `Piece`, `pieces` : the pieces of a text.
* `numberPieces` : the text of pieces with known placeholders replaced, and the order of slots.
* `numberPlaceholders` : the same for a text.

## Main results

* `flatMap_text_pieces` : the pieces one after the other are the text.
-/

namespace EntitySql.Postgres

open Text

/-- A piece of a statement. -/
inductive Piece where
  /-- A string literal with its quotes; the closing one may be missing at the end of the text. -/
  | literal (text : List Char)
  /-- The mark `@` and the longest run of word characters behind it, which may be empty. -/
  | placeholder (name : List Char)
  | other (c : Char)
deriving DecidableEq

/-- The text of a piece. -/
def Piece.text : Piece → List Char
  | literal text => text
  | placeholder name => '@' :: name
  | other c => [c]

/-- The pieces of a text. -/
def pieces : List Char → List Piece
  | [] => []
  | c :: cs =>
      if c = '\'' then
        match h : cs.dropWhile (· ≠ '\'') with
        | [] => [.literal (c :: cs)]
        | quote :: rest =>
            have : rest.length < cs.length := by
              have := (List.dropWhile_suffix (l := cs) (· ≠ '\'')).length_le
              rw [h] at this
              exact this
            .literal (c :: cs.takeWhile (· ≠ '\'') ++ [quote]) :: pieces rest
      else if c = '@' then
        have := (List.dropWhile_suffix (l := cs) isWordChar).length_le
        .placeholder (cs.takeWhile isWordChar) :: pieces (cs.dropWhile isWordChar)
      else .other c :: pieces cs
termination_by cs => cs.length

/-- A text with numbered placeholders, and for each slot the place of its name among the names. -/
structure Numbered where
  sql : List Char
  order : List Nat
deriving DecidableEq

/-- The place of a name that a placeholder may have: the empty name has none. -/
def placeOf? (names : List String) (name : List Char) : Option Nat :=
  if name = [] then none else names.findIdx? (·.toList = name)

/-- The order of slots after a name has been used. -/
def withSlot (order : List Nat) (place : Nat) : List Nat :=
  if place ∈ order then order else order ++ [place]

/-- The text of pieces with the known placeholders replaced, after some slots have been given. -/
def numberPieces (names : List String) : List Nat → List Piece → Numbered
  | order, [] => ⟨[], order⟩
  | order, piece :: rest =>
      let place? :=
        match piece with
        | .placeholder name => placeOf? names name
        | _ => none
      match place? with
      | none =>
          let r := numberPieces names order rest
          ⟨piece.text ++ r.sql, r.order⟩
      | some place =>
          let order := withSlot order place
          let r := numberPieces names order rest
          ⟨'$' :: numeral (order.idxOf place + 1) ++ r.sql, r.order⟩

/-- A text with its known placeholders replaced. -/
def numberPlaceholders (sql : String) (names : List String) : Numbered :=
  numberPieces names [] (pieces sql.toList)

theorem flatMap_text_pieces (cs : List Char) : (pieces cs).flatMap Piece.text = cs := by
  fun_induction pieces cs with
  | case1 => rfl
  | case2 cs h => simp [Piece.text]
  | case3 cs quote rest h _ ih =>
      have split := List.takeWhile_append_dropWhile (p := (· ≠ '\'')) (l := cs)
      rw [h] at split
      simp only [List.flatMap_cons, Piece.text, ih]
      rw [List.cons_append, List.cons_append, List.append_assoc]
      exact congrArg _ split
  | case4 cs _ _ ih =>
      simp only [List.flatMap_cons, Piece.text, ih]
      rw [List.cons_append, List.takeWhile_append_dropWhile]
  | case5 c cs _ _ ih => simp [Piece.text, ih]

end EntitySql.Postgres
