import EntitySql.Literal
import EntitySql.Proofs.Text.Token

/-!
# Quoted and bare literals

The literal of a value is either a text in quotes or a token of its own. What stands between the
quotes depends on the value alone; only the tokens of truth values depend on the dialect.

## Main definitions

* `Value.quotedText?` : the text that is quoted, if the literal of a value is quoted.

## Main results

* `Value.literal_eq_sqlQuoted` : the literal of a quoted value is its text in quotes.
* `Value.isToken_literal` : every other literal is a token.
-/

namespace EntitySql

open Numeric Text

/-- The text between the quotes of a literal; none for a value that is written without quotes. -/
def Value.quotedText? : Value → Option (List Char)
  | .null | .bool _ | .int _ => none
  | .float x =>
      if x.isNaN then some "NaN".toList
      else if x.isInfinite then some (if x.isNegative then "-Infinity" else "Infinity").toList
      else none
  | .text s => some s.toList
  | .uuid u => some u.text
  | .date d => some d.text
  | .timestamp t => some (t.text ' ')
  | .timestampTz t => some t.rfc3339
  | .json j => some j.write

/-! ### Texts of doubles -/

namespace Numeric

private theorem isToken_pointed {digits : List Char} (hd : IsToken digits) (point : Int) :
    IsToken (FloatLayout.plain.pointed digits point) := by
  have zeros (n : Nat) : IsToken (List.replicate n '0') := by
    intro c hc
    rw [List.eq_of_mem_replicate hc]
    decide
  unfold FloatLayout.pointed
  dsimp only [FloatLayout.plain]
  split
  · split
    · simp only [isToken_append]
      exact ⟨⟨hd, zeros _⟩, by decide⟩
    · rw [isToken_append, isToken_cons]
      exact ⟨fun c hc => hd c (List.mem_of_mem_take hc), by decide,
        fun c hc => hd c (List.mem_of_mem_drop hc)⟩
  · simp only [isToken_append]
    exact ⟨⟨by decide, zeros _⟩, hd⟩

private theorem isToken_decimal (d : Decimal) : IsToken (FloatLayout.plain.decimal d) := by
  unfold FloatLayout.decimal
  exact isToken_pointed (isToken_numeral _) _

/-- A finite double is written as a token. -/
theorem Double.isToken_text {x : Double} (hnan : x.isNaN = false)
    (hinf : x.isInfinite = false) : IsToken x.text.toList := by
  have hsign (negative : Bool) : IsToken (if negative then ['-'] else []) := by
    cases negative <;> decide
  have hnan' : ¬ FloatFormat.double.infinity < x.magnitude := of_decide_eq_false hnan
  have hinf' : ¬ x.magnitude = FloatFormat.double.infinity := of_decide_eq_false hinf
  have hx : x.datum = .finite x.isNegative (FloatFormat.double.parts x.magnitude).1
      (FloatFormat.double.parts x.magnitude).2 := by
    rw [Double.datum, FloatFormat.datum]
    exact (if_neg hinf').trans (if_neg hnan')
  rw [Double.text, String.toList_ofList, hx, FloatLayout.write]
  split
  · exact isToken_append.mpr ⟨hsign _, isToken_decimal _⟩
  · exact isToken_append.mpr ⟨hsign _, isToken_decimal _⟩

end Numeric

/-! ### Literals -/

namespace Value

variable {v : Value}

theorem literal_eq_sqlQuoted {text : List Char} (h : v.quotedText? = some text)
    (dialect : Dialect) : v.literal dialect = sqlQuoted text := by
  cases v with
  | null | bool | int => cases h
  | float x =>
      rw [literal, doubleLiteral]
      rw [quotedText?] at h
      split at h
      · next hnan => rw [if_pos hnan, ← Option.some.inj h]; rfl
      · next hnan =>
          rw [if_neg hnan]
          split at h
          · next hinf =>
              rw [if_pos hinf, ← Option.some.inj h]
              cases x.isNegative <;> rfl
          · cases h
  | text | uuid | date | timestamp | timestampTz | json => rw [← Option.some.inj h]; rfl

theorem isToken_literal (h : v.quotedText? = none) (dialect : Dialect) :
    IsToken (v.literal dialect).toList := by
  cases v with
  | null => cases dialect <;> decide
  | bool b => cases dialect <;> cases b <;> decide
  | int n =>
      rw [literal, String.toList_ofList]
      exact isToken_signedNumeral _
  | float x =>
      rw [quotedText?] at h
      split at h
      · cases h
      · next hnan =>
          split at h
          · cases h
          · next hinf =>
              rw [literal, doubleLiteral, if_neg hnan, if_neg hinf]
              exact Double.isToken_text (eq_false_of_ne_true hnan) (eq_false_of_ne_true hinf)
  | text | uuid | date | timestamp | timestampTz | json => cases h

end Value

end EntitySql
