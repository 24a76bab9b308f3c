import EntitySql.Proofs.Calendar.Reading
import EntitySql.Proofs.Condition.Clause
import EntitySql.Proofs.Uuid

/-!
# Literals keep their values

What stands in a statement for a flag, an integer, a text, a UUID, a date or a timestamp is read
back as that value by a reader that knows the kind. So two values of one kind are never written
alike: quotes are doubled, years have as many digits as they need, and no digit of a fraction and no
leap second is dropped.

## Main definitions

* `Timestamp.separated?` : a date and a time with a given separator between them.

## Main results

* `injective_of_read` : what is read back from its text has a text of its own.
* `sqlQuoted_injective` : a quoted text is determined by its literal.
* `Timestamp.text_injective` : a timestamp is determined by its text.
* `Value.literal_injective` : a value is determined by its literal.
-/

namespace EntitySql

open Numeric Calendar Text

/-- What is read back from its text has a text of its own. -/
theorem injective_of_read {α β : Type} {write : α → β} (read : β → Option α)
    (h : ∀ a, read (write a) = some a) : Function.Injective write := by
  intro a b hab
  have hread := h a
  rw [hab, h b] at hread
  exact (Option.some.inj hread).symm

/-! ### Texts in quotes -/

theorem doubleQuotes_injective : Function.Injective doubleQuotes := by
  refine injective_of_read (fun cs => (readQuoted (cs ++ ['\''])).map Prod.fst) fun text => ?_
  rw [readQuoted_doubleQuotes text (by simp), Option.map_some]

/-- A quoted text is determined by its literal. -/
theorem sqlQuoted_injective : Function.Injective sqlQuoted := by
  intro text text' h
  have hquoted : '\'' :: (doubleQuotes text ++ ['\'']) = '\'' :: (doubleQuotes text' ++ ['\'']) :=
    String.ofList_injective h
  exact doubleQuotes_injective (List.append_cancel_right (List.cons.inj hquoted).2)

/-! ### Integers and UUIDs -/

theorem signedNumeral_injective : Function.Injective signedNumeral :=
  injective_of_read (integer? true) fun _ => integer?_signedNumeral (.inl rfl)

theorem Uuid.text_injective : Function.Injective Uuid.text :=
  injective_of_read Uuid.ofText? Uuid.ofText?_text

/-! ### Dates and timestamps -/

namespace Calendar

theorem Date.text_injective : Function.Injective Date.text :=
  injective_of_read Date.ofText? Date.ofText?_text

namespace Timestamp

/-- The timestamp that a text denotes with a given separator between date and time. -/
def separated? (separator : Char) (cs : List Char) : Option Timestamp := do
  let (date, cs) ← looseDate cs
  let ((), cs) ← mark separator cs
  let (time, _) ← looseTime cs
  some ⟨date, time⟩

theorem separated?_text {separator : Char} (h : separator.isDigit = false) (t : Timestamp) :
    separated? separator (t.text separator) = some t := by
  have hdate := finds_looseDate t.date (separator :: t.time.text) (endsDigits_cons h _)
  have htime := looseTime_text t.time endsTime_nil
  rw [List.append_nil] at htime
  simp only [separated?, text, hdate, mark_cons, htime, Option.bind_eq_bind, Option.bind_some]

/-- A timestamp is determined by its text, if no digit separates date and time. -/
theorem text_injective {separator : Char} (h : separator.isDigit = false) :
    Function.Injective (text separator) :=
  injective_of_read (separated? separator) (separated?_text h)

/-- A timestamp in UTC is determined by its strict text, also where that text is not read. -/
theorem rfc3339_injective : Function.Injective rfc3339 := by
  intro t t' h
  exact text_injective (by decide) (List.append_cancel_right h)

end Timestamp

end Calendar

/-! ### Literals -/

theorem Dialect.boolLiteral_injective (dialect : Dialect) :
    Function.Injective dialect.boolLiteral := by
  intro b b' h
  revert h
  cases dialect <;> cases b <;> cases b' <;> decide

namespace Value

/-- Two flags, integers, texts, UUIDs, dates or timestamps that have one literal are equal. -/
theorem literal_injective (dialect : Dialect) :
    Function.Injective (fun b => (bool b).literal dialect) ∧
    Function.Injective (fun n => (int n).literal dialect) ∧
    Function.Injective (fun s => (text s).literal dialect) ∧
    Function.Injective (fun u => (uuid u).literal dialect) ∧
    Function.Injective (fun d => (date d).literal dialect) ∧
    Function.Injective (fun t => (timestamp t).literal dialect) ∧
    Function.Injective (fun t => (timestampTz t).literal dialect) := by
  refine ⟨dialect.boolLiteral_injective, fun n n' h => ?_, fun s s' h => ?_, fun u u' h => ?_,
    fun d d' h => ?_, fun t t' h => ?_, fun t t' h => ?_⟩
  · exact Subtype.ext (signedNumeral_injective (String.ofList_injective h))
  · exact String.toList_injective (sqlQuoted_injective h)
  · exact Uuid.text_injective (sqlQuoted_injective h)
  · exact Date.text_injective (sqlQuoted_injective h)
  · exact Timestamp.text_injective (by decide) (sqlQuoted_injective h)
  · exact Timestamp.rfc3339_injective (sqlQuoted_injective h)

/-- A leap second keeps its number and its fraction. -/
example : (timestamp ⟨.epoch, 23, 59, 60, 500000000, by decide⟩).literal .tSql =
    "'1970-01-01 23:59:60.500'" := by decide +kernel

end Value

end EntitySql
