import EntitySql.Proofs.Numeric.Exact
import EntitySql.Proofs.Text.Numeral
import EntitySql.Value.Conversion

/-!
# Numbers in integer fields

An integer field takes a number only if it can hold that very number, whether the number comes as an
integer, as a double or as a numeral. There is one exception: the number that follows the greatest
one of 64 bits is a double, it is clamped to the greatest number, and the two are equal once both
are doubles.

## Main definitions

* `FieldType.Gives` : the number that a value gives to an integer field.

## Main results

* `FieldType.integerOfDouble?_eq_some_iff` : the integer of a double.
* `FieldType.gives_iff` : the integers, doubles and texts that give a number.
* `FieldType.gives_greatest_of_float` : a double out of range that is taken for the greatest number.
-/

namespace EntitySql

open Numeric Text

/-! ### The limits of 64 bits -/

namespace Numeric.Double

/-- The greatest number of 64 bits is rounded up to the next power of two. -/
theorem ofInt_greatest :
    ofInt IntegerType.int64.greatest = ofInt (IntegerType.int64.greatest + 1) := by
  decide +kernel

theorem value?_ofInt_next :
    (ofInt (IntegerType.int64.greatest + 1)).value? = some (2 ^ 63) := by
  have hdatum : (ofInt (IntegerType.int64.greatest + 1)).datum =
      .finite false 4503599627370496 11 := by decide +kernel
  rw [value?, hdatum]
  norm_num

theorem value?_ofInt_least :
    (ofInt IntegerType.int64.least).value? = some (IntegerType.int64.least : ℚ) := by
  have hdatum : (ofInt IntegerType.int64.least).datum = .finite true 4503599627370496 11 := by
    decide +kernel
  rw [value?, hdatum]
  norm_num [IntegerType.least]

/-- The greatest number of 64 bits and one more. -/
theorem cast_greatest_add_one : ((IntegerType.int64.greatest + 1 : ℤ) : ℚ) = 2 ^ 63 := by
  norm_num [IntegerType.greatest]

/-- An integer is clamped to a limit that it exceeds, and left alone otherwise. -/
theorem saturated_cases (k : ℤ) :
    k < IntegerType.int64.least ∧ (saturated k).val = IntegerType.int64.least ∨
      IntegerType.int64.InRange k ∧ (saturated k).val = k ∨
      IntegerType.int64.greatest < k ∧ (saturated k).val = IntegerType.int64.greatest := by
  simp only [saturated, IntegerType.InRange, IntegerType.least, IntegerType.greatest]
  omega

end Numeric.Double

namespace FieldType

variable {t : IntegerType} {n : Int}

/-- The number that a value gives to a field of an integer type. -/
def Gives (t : IntegerType) (v : Value) (n : Int) : Prop :=
  ∃ m : t.Carrier, m.val = n ∧ ofValue (.integer t) v = .ok m

/-- What is read as an integer is given if the type can hold it. -/
theorem gives_iff_of_reading {v : Value} {failure : ConversionFailure} {reading : Option Int}
    (h : readInteger t v = match reading.bind t.ofInt? with
      | some m => .ok m
      | none => .error failure) : Gives t v n ↔ reading = some n ∧ t.InRange n := by
  rw [Gives, ofValue, h]
  constructor
  · rintro ⟨m, rfl, hm⟩
    split at hm
    · next m' hbind =>
        cases hm
        obtain ⟨k, rfl, hk⟩ := Option.bind_eq_some_iff.mp hbind
        rw [IntegerType.ofInt?_eq_some_iff.mp hk]
        exact ⟨rfl, m.property⟩
    · cases hm
  · rintro ⟨rfl, hrange⟩
    have hbind : (some n).bind t.ofInt? = some ⟨n, hrange⟩ := IntegerType.ofInt?_val ⟨n, hrange⟩
    exact ⟨⟨n, hrange⟩, rfl, by rw [hbind]; rfl⟩

theorem gives_int_iff {k : IntegerType.int64.Carrier} :
    Gives t (.int k) n ↔ k.val = n ∧ t.InRange n := by
  have h : Gives t (.int k) n ↔ some k.val = some n ∧ t.InRange n := gives_iff_of_reading rfl
  rwa [Option.some.injEq] at h

theorem gives_text_iff {s : String} :
    Gives t (.text s) n ↔ IsNumeral t.signed (trim s.toList) n ∧ t.InRange n := by
  rw [← integer?_eq_some_iff]
  exact gives_iff_of_reading rfl

/-! ### Doubles -/

theorem exists_of_integerOfDouble? {x : Double} {wide : IntegerType.int64.Carrier} :
    integerOfDouble? x = some wide ↔ ∃ k : ℤ, x.value? = some (k : ℚ) ∧
      Double.saturated k = wide ∧ (Double.ofInt wide.val).agrees x = true := by
  simp only [integerOfDouble?, Option.bind_eq_bind, Option.bind_eq_some_iff,
    Double.toInt?_eq_some_iff, Option.ite_none_right_eq_some, Option.some.injEq]
  constructor
  · rintro ⟨k, hk, hagrees, rfl⟩
    exact ⟨k, hk, rfl, hagrees⟩
  · rintro ⟨k, hk, rfl, hagrees⟩
    exact ⟨k, hk, hagrees, rfl⟩

/-- The integer of a double is its value, or the greatest number of 64 bits for the one that follows
it. -/
theorem integerOfDouble?_eq_some_iff {x : Double} {wide : IntegerType.int64.Carrier} :
    integerOfDouble? x = some wide ↔ x.value? = some (wide.val : ℚ) ∨
      x.value? = some (2 ^ 63) ∧ wide.val = IntegerType.int64.greatest := by
  rw [exists_of_integerOfDouble?]
  constructor
  · rintro ⟨k, hk, rfl, hagrees⟩
    have hvalue := (Double.value?_eq_of_agrees hagrees).trans hk
    rcases Double.saturated_cases k with ⟨hlow, hwide⟩ | ⟨-, hwide⟩ | ⟨-, hwide⟩
    · rw [hwide, Double.value?_ofInt_least, Option.some.injEq, Int.cast_inj] at hvalue
      exact absurd hvalue hlow.ne'
    · rw [hwide]
      exact Or.inl hk
    · rw [hwide, Double.ofInt_greatest, Double.value?_ofInt_next] at hvalue
      exact Or.inr ⟨hk.trans hvalue.symm, hwide⟩
  · rintro (hvalue | ⟨hvalue, hwide⟩)
    · refine ⟨wide.val, hvalue, Subtype.ext ?_, Double.agrees_ofInt hvalue⟩
      have hrange := wide.property
      rcases Double.saturated_cases wide.val with ⟨hlow, -⟩ | ⟨-, heq⟩ | ⟨hhigh, -⟩
      · exact absurd hrange.1 hlow.not_ge
      · exact heq
      · exact absurd hrange.2 hhigh.not_ge
    · rw [← Double.cast_greatest_add_one] at hvalue
      refine ⟨IntegerType.int64.greatest + 1, hvalue, ?_, ?_⟩
      · exact Subtype.ext hwide.symm
      · rw [hwide, Double.ofInt_greatest]
        exact Double.agrees_ofInt hvalue

theorem eq_int64_of_inRange (h : t.InRange IntegerType.int64.greatest) : t = .int64 := by
  cases t <;> first | rfl | exact absurd h (by decide)

theorem gives_float_iff {x : Double} :
    Gives t (.float x) n ↔ x.value? = some (n : ℚ) ∧ t.InRange n ∨
      t = .int64 ∧ x.value? = some (2 ^ 63) ∧ n = IntegerType.int64.greatest := by
  have h : Gives t (.float x) n ↔ (integerOfDouble? x).map Subtype.val = some n ∧ t.InRange n :=
    gives_iff_of_reading (by rw [Option.bind_map]; rfl)
  rw [h, Option.map_eq_some_iff]
  constructor
  · rintro ⟨⟨wide, hwide, rfl⟩, hrange⟩
    rcases integerOfDouble?_eq_some_iff.mp hwide with hvalue | ⟨hvalue, hgreatest⟩
    · exact Or.inl ⟨hvalue, hrange⟩
    · rw [hgreatest] at hrange
      exact Or.inr ⟨eq_int64_of_inRange hrange, hvalue, hgreatest⟩
  · rintro (⟨hvalue, hrange⟩ | ⟨rfl, hvalue, rfl⟩)
    · exact ⟨⟨⟨n, hrange.int64⟩, integerOfDouble?_eq_some_iff.mpr (Or.inl hvalue), rfl⟩, hrange⟩
    · have hrange : IntegerType.int64.InRange IntegerType.int64.greatest := by decide
      exact ⟨⟨⟨_, hrange⟩, integerOfDouble?_eq_some_iff.mpr (Or.inr ⟨hvalue, rfl⟩), rfl⟩, hrange⟩

/-! ### All three -/

/-- The numbers that integers, doubles and texts give to an integer field. Each gives its own number
if the field can hold it and no number otherwise, but for one double. -/
theorem gives_iff (t : IntegerType) (n : Int) :
    (∀ k : IntegerType.int64.Carrier, Gives t (.int k) n ↔ k.val = n ∧ t.InRange n) ∧
      (∀ x : Double, Gives t (.float x) n ↔ x.value? = some (n : ℚ) ∧ t.InRange n ∨
        t = .int64 ∧ x.value? = some (2 ^ 63) ∧ n = IntegerType.int64.greatest) ∧
      ∀ s : String, Gives t (.text s) n ↔ IsNumeral t.signed (trim s.toList) n ∧ t.InRange n :=
  ⟨fun _ => gives_int_iff, fun _ => gives_float_iff, fun _ => gives_text_iff⟩

/-- A double out of range that is taken for the greatest number of 64 bits. -/
theorem gives_greatest_of_float : (Double.mk 0x43E0000000000000).value? = some (2 ^ 63) ∧
    ¬ IntegerType.int64.InRange (2 ^ 63) ∧
      Gives .int64 (.float (Double.mk 0x43E0000000000000)) (2 ^ 63 - 1) := by
  have hbits : Double.mk 0x43E0000000000000 = Double.ofInt (IntegerType.int64.greatest + 1) := by
    decide +kernel
  rw [hbits]
  have hvalue := Double.value?_ofInt_next
  exact ⟨hvalue, by decide, gives_float_iff.mpr (Or.inr ⟨rfl, hvalue, rfl⟩)⟩

end FieldType

end EntitySql
