import EntitySql.Proofs.Calendar.Reading
import EntitySql.Proofs.Uuid
import EntitySql.Proofs.Value.Integer
import EntitySql.Proofs.Value.Padding

/-!
# Contents stored in text fields

A text field takes the display of any value. Flags, integers, UUIDs and dates are found again from
it, and so are timestamps in UTC. Other timestamps are not: their display has a blank where their
reader wants a `T`.

## Main definitions

* `FieldType.IsTextual` : the types of flags, integers, UUIDs and dates.

## Main results

* `FieldType.ofValue_text_of_trim_eq` : blanks around a text do not matter, except for flags.
* `FieldType.ofValue_text_toValue` : contents of textual types are found again from their texts.
* `FieldType.ofValue_text_timestamp` : timestamps in UTC are found again, other timestamps are not.
-/

namespace EntitySql

open Numeric Calendar Text

namespace FieldType

/-! ### Contents read from a text -/

theorem readBool_boolText (b : Bool) : readBool (.text (Value.boolText b)) = some b := by
  cases b <;> decide +kernel

theorem ofValue_integer_text_iff {t : IntegerType} {s : String} {n : t.Carrier} :
    ofValue (.integer t) (.text s) = .ok n ↔ integer? t.signed (trim s.toList) = some n.val := by
  rw [integer?_eq_some_iff]
  constructor
  · intro h
    have hgives : Gives t (.text s) n.val := ⟨n, rfl, h⟩
    exact (gives_text_iff.mp hgives).1
  · intro h
    obtain ⟨m, hm, hread⟩ := gives_text_iff.mpr ⟨h, n.property⟩
    rwa [Subtype.ext hm] at hread

theorem ofValue_uuid_text_iff {s : String} {u : Uuid} :
    ofValue .uuid (.text s) = .ok u ↔ Uuid.ofText? (trim s.toList) = some u :=
  orMismatch_eq_ok_iff

theorem ofValue_date_text_iff {s : String} {d : Date} :
    ofValue .date (.text s) = .ok d ↔ Date.ofText? (trim s.toList) = some d :=
  orMismatch_eq_ok_iff

theorem ofValue_timestampTz_text_iff {s : String} {t : Timestamp} :
    ofValue .timestampTz (.text s) = .ok t ↔ Timestamp.ofRfc3339? (trim s.toList) = some t :=
  orMismatch_eq_ok_iff

/-! ### Contents other than timestamps -/

/-- The types of flags, integers, UUIDs and dates. -/
def IsTextual : FieldType → Prop
  | bool | integer _ | uuid | date => True
  | _ => False

instance (t : FieldType) : Decidable t.IsTextual := by
  unfold IsTextual
  split <;> infer_instance

/-- What a textual type other than that of flags takes from a text depends on the trimmed text
only. -/
theorem ofValue_text_of_trim_eq {t : FieldType} {s s' : String} {x : t.Carrier} (ht : t.IsTextual)
    (hbool : t ≠ bool) (htrim : trim s'.toList = trim s.toList)
    (h : t.ofValue (.text s) = .ok x) : t.ofValue (.text s') = .ok x := by
  have htrimming : t.IsTrimming := by
    cases t with
    | bool => exact absurd rfl hbool
    | integer t => trivial
    | uuid => trivial
    | date => trivial
    | _ => exact ht.elim
  exact (ofValue_text_iff_of_trim_eq htrimming htrim x).mpr h

theorem signed_or_nonneg {t : IntegerType} (n : t.Carrier) : t.signed = true ∨ 0 ≤ n.val := by
  have hlow := n.property.1
  cases t <;> simp_all [IntegerType.signed, IntegerType.least]

theorem isTrimmed_signedNumeral (n : Int) : IsTrimmed (signedNumeral n) := by
  have hdigits : ∀ c ∈ numeral n.natAbs, isBlank c = false :=
    fun c hc => isBlank_of_isDigit ((isDigits_numeral n.natAbs).2 c hc)
  apply isTrimmed_of_forall
  unfold signedNumeral
  split
  · exact List.forall_mem_cons.mpr ⟨by decide, hdigits⟩
  · exact hdigits

theorem ofValue_display_integer {t : IntegerType} (n : t.Carrier) :
    ofValue (.integer t) (.text (Value.int (IntegerType.widen n)).display) = .ok n := by
  rw [ofValue_integer_text_iff, Value.display, String.toList_ofList,
    (isTrimmed_signedNumeral _).trim_eq]
  exact integer?_signedNumeral (signed_or_nonneg n)

theorem ofValue_display_uuid (u : Uuid) : ofValue .uuid (.text (Value.uuid u).display) = .ok u := by
  rw [ofValue_uuid_text_iff, Value.display, String.toList_ofList,
    (isTrimmed_of_forall Uuid.isBlank_of_mem_text).trim_eq, u.ofText?_text]

theorem ofValue_display_date (d : Date) : ofValue .date (.text (Value.date d).display) = .ok d := by
  rw [ofValue_date_text_iff, Value.display, String.toList_ofList,
    (isTrimmed_of_forall isBlank_of_mem_dateText).trim_eq, d.ofText?_text]

/-- The display of a content is what a text field takes, and it gives the content back. -/
theorem ofValue_display {t : FieldType} (ht : t.IsTextual) (x : t.Carrier) :
    ofValue .text (t.toValue x) = .ok (t.toValue x).display ∧
      t.ofValue (.text (t.toValue x).display) = .ok x := by
  cases t with
  | bool => exact ⟨rfl, orMismatch_eq_ok_iff.mpr (readBool_boolText x)⟩
  | integer t => exact ⟨rfl, ofValue_display_integer x⟩
  | uuid => exact ⟨rfl, ofValue_display_uuid x⟩
  | date => exact ⟨rfl, ofValue_display_date x⟩
  | _ => exact ht.elim

/-- The content of a textual type is found again from the text that it gives to a text field, and
but for flags also with blanks around that text. -/
theorem ofValue_text_toValue {t : FieldType} (ht : t.IsTextual) (x : t.Carrier) :
    ∃ s : String, ofValue .text (t.toValue x) = .ok s ∧ t.ofValue (.text s) = .ok x ∧
      (t ≠ bool → ∀ before after : String, AreBlank before.toList → AreBlank after.toList →
        t.ofValue (.text (before ++ s ++ after)) = .ok x) := by
  obtain ⟨htext, hread⟩ := ofValue_display ht x
  refine ⟨_, htext, hread, ?_⟩
  intro hbool before after hbefore hafter
  apply ofValue_text_of_trim_eq ht hbool _ hread
  rw [String.toList_append, String.toList_append, trim_append hbefore hafter]

/-- The last day of the calendar is found again with blanks around its text. -/
theorem ofValue_text_toValue_lastDay :
    ∃ s : String, ofValue .text (.date ⟨262142, 12, 31, by decide⟩) = .ok s ∧
      ofValue .date (.text (" " ++ s ++ "\n")) = .ok ⟨262142, 12, 31, by decide⟩ := by
  obtain ⟨s, htext, -, hblanks⟩ :=
    ofValue_text_toValue (t := .date) (by decide) ⟨262142, 12, 31, by decide⟩
  exact ⟨s, htext, hblanks (by decide) " " "\n" (by decide) (by decide)⟩

/-! ### Timestamps -/

theorem ofValue_timestamp_text (t : Timestamp) (separator : Char) :
    ofValue .timestamp (.text (String.ofList (t.text separator))) =
      orMismatch (.text (String.ofList (t.text separator))) .timestamp
        (Timestamp.ofText? (t.text separator)) := by
  rw [ofValue, readTimestamp, String.toList_ofList, (isTrimmed_timestampText t separator).trim_eq]
  rfl

/-- A blank between date and time is refused. -/
theorem ofValue_timestamp_text_blank (t : Timestamp) :
    ofValue .timestamp (.text (String.ofList (t.text ' '))) =
      .error (.mismatch (.text (String.ofList (t.text ' '))) .timestamp) := by
  rw [ofValue_timestamp_text, t.ofText?_text_blank]
  rfl

theorem ofValue_timestamp_text_mark (t : Timestamp) :
    ofValue .timestamp (.text (String.ofList (t.text 'T'))) = .ok t := by
  rw [ofValue_timestamp_text, t.ofText?_text]
  rfl

theorem ofValue_timestampTz_rfc3339_iff (t : Timestamp) :
    ofValue .timestampTz (.text (String.ofList t.rfc3339)) = .ok t ↔
      0 ≤ t.date.year ∧ t.date.year ≤ 9999 := by
  rw [← Timestamp.ofRfc3339?_rfc3339_eq_some_iff, ofValue_timestampTz_text_iff,
    String.toList_ofList, (isTrimmed_rfc3339 t).trim_eq]

/-- The text of a timestamp without offset is refused, and gives the timestamp back with a `T` in
place of the blank. A timestamp in UTC is found again from its text just if its year has four digits
and no sign. -/
theorem ofValue_text_timestamp (t : Timestamp) :
    (∃ s : String, ofValue .text (.timestamp t) = .ok s ∧
      ofValue .timestamp (.text s) = .error (.mismatch (.text s) .timestamp)) ∧
    ofValue .timestamp (.text (String.ofList (t.text 'T'))) = .ok t ∧
    ∃ s : String, ofValue .text (.timestampTz t) = .ok s ∧
      (ofValue .timestampTz (.text s) = .ok t ↔ 0 ≤ t.date.year ∧ t.date.year ≤ 9999) :=
  ⟨⟨_, rfl, ofValue_timestamp_text_blank t⟩, ofValue_timestamp_text_mark t,
    _, rfl, ofValue_timestampTz_rfc3339_iff t⟩

/-- The start of 1970 is not found again from its text. -/
theorem ofValue_text_timestamp_epoch :
    ¬ ∃ s : String, ofValue .text (.timestamp .epoch) = .ok s ∧
      ofValue .timestamp (.text s) = .ok Timestamp.epoch := by
  rintro ⟨s, htext, hread⟩
  cases htext
  have hrefused := ofValue_timestamp_text_blank .epoch
  rw [Value.display] at hread
  rw [hread] at hrefused
  cases hrefused

end FieldType

end EntitySql
