import EntitySql.Value.Conversion

/-!
# Contents and their values

The content of a field becomes a value when the field is read, and a value becomes the content of a
field when the field is set. For most types of fields nothing is lost on the way. Singles are left
out: their values are doubles with the same shortest text.

## Main definitions

* `FieldType.IsScalar` : the types that hold one kind of value and never null.
* `FieldType.IsFaithful` : the types whose contents are found again from their values.
* `FieldType.HoldsNull` : the types with a content for null.

## Main results

* `FieldType.ofValue_toValue` : a content is found again from its value.
* `FieldType.holdsNull_of_toValue_eq_null` : other types have no content for null.
-/

namespace EntitySql

open Numeric

namespace FieldType

/-- The types of fields that hold one kind of value and never null. -/
def IsScalar : FieldType → Prop
  | single | value | optional _ => False
  | _ => True

instance (t : FieldType) : Decidable t.IsScalar := by
  unfold IsScalar
  split <;> infer_instance

/-- The scalar types, their optional types, and the type of all values. -/
def IsFaithful : FieldType → Prop
  | value => True
  | optional t => t.IsScalar
  | t => t.IsScalar

instance (t : FieldType) : Decidable t.IsFaithful := by
  unfold IsFaithful
  split <;> infer_instance

/-- The types with a content for null. -/
def HoldsNull : FieldType → Prop
  | value | optional _ => True
  | _ => False

instance (t : FieldType) : Decidable t.HoldsNull := by
  unfold HoldsNull
  split <;> infer_instance

theorem isNull_toValue {t : FieldType} (ht : t.IsScalar) (x : t.Carrier) :
    (t.toValue x).isNull = false := by
  cases t with
  | single | value | optional => exact ht.elim
  | _ => rfl

/-- A content of a scalar type is found again from its value. -/
theorem ofValue_toValue_of_isScalar {t : FieldType} (ht : t.IsScalar) (x : t.Carrier) :
    t.ofValue (t.toValue x) = .ok x := by
  cases t with
  | single | value | optional => exact ht.elim
  | integer t =>
      have hx : t.ofInt? (IntegerType.widen x).val = some x := IntegerType.ofInt?_val x
      simp only [toValue, ofValue, readInteger, hx]
      rfl
  | _ => rfl

/-- A content is found again from its value. -/
theorem ofValue_toValue {t : FieldType} (ht : t.IsFaithful) (x : t.Carrier) :
    t.ofValue (t.toValue x) = .ok x := by
  cases t with
  | value => rfl
  | optional t =>
      cases x with
      | none => rfl
      | some x =>
          have hnull : ¬ (t.toValue x).isNull = true := by simp [isNull_toValue ht x]
          rw [toValue, ofValue, if_neg hnull, ofValue_toValue_of_isScalar ht]
          rfl
  | _ =>
      refine ofValue_toValue_of_isScalar ?_ x
      exact ht

theorem holdsNull_of_toValue_eq_null {t : FieldType} {x : t.Carrier} (h : t.toValue x = .null) :
    t.HoldsNull := by
  cases t with
  | value | optional => trivial
  | _ => cases h

end FieldType

theorem Value.isNull_eq_true_iff {v : Value} : v.isNull = true ↔ v = .null := by
  cases v <;> simp [isNull]

end EntitySql
