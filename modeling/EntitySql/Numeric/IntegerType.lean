/-!
# Integer types of fixed width

The integer types that a column or a field can have, each with its least and its greatest number,
and the integers that fit into one.

## Main definitions

* `IntegerType` : signed types of 8 to 64 bits and unsigned types of 8 to 32 bits.
* `IntegerType.Carrier` : the integers within the range of a type.
* `IntegerType.ofInt?` : an integer as a member of a type, if it is in range.

## Main results

* `IntegerType.ofInt?_val` : a member of a type is found again from its number.
* `IntegerType.ofInt?_eq_some_iff` : exactly the integers in range are found.
-/

namespace EntitySql.Numeric

/-- The integer types of fixed width.  A number of the signed type of 8 bits is written as a value,
but no value is read as one. -/
inductive IntegerType where
  | int8
  | int16
  | int32
  | int64
  | nat8
  | nat16
  | nat32
deriving DecidableEq, Repr

namespace IntegerType

/-- The least number of a type. -/
def least : IntegerType → Int
  | int8 => -128
  | int16 => -32768
  | int32 => -2147483648
  | int64 => -9223372036854775808
  | nat8 | nat16 | nat32 => 0

/-- The greatest number of a type. -/
def greatest : IntegerType → Int
  | int8 => 127
  | int16 => 32767
  | int32 => 2147483647
  | int64 => 9223372036854775807
  | nat8 => 255
  | nat16 => 65535
  | nat32 => 4294967295

/-- Whether a type has negative numbers. -/
def signed : IntegerType → Bool
  | int8 | int16 | int32 | int64 => true
  | nat8 | nat16 | nat32 => false

/-- The name of a type in messages. -/
def name : IntegerType → String
  | int8 => "i8"
  | int16 => "i16"
  | int32 => "i32"
  | int64 => "i64"
  | nat8 => "u8"
  | nat16 => "u16"
  | nat32 => "u32"

/-- The range of a type. -/
def InRange (t : IntegerType) (n : Int) : Prop :=
  t.least ≤ n ∧ n ≤ t.greatest

instance (t : IntegerType) (n : Int) : Decidable (t.InRange n) :=
  inferInstanceAs (Decidable (_ ∧ _))

/-- The integers within the range of a type. -/
abbrev Carrier (t : IntegerType) : Type :=
  { n : Int // t.InRange n }

/-- An integer as a member of a type, if it is in range. -/
def ofInt? (t : IntegerType) (n : Int) : Option t.Carrier :=
  if h : t.InRange n then some ⟨n, h⟩ else none

theorem ofInt?_val {t : IntegerType} (n : t.Carrier) : t.ofInt? n.val = some n := by
  simp [ofInt?, n.property]

theorem ofInt?_eq_some_iff {t : IntegerType} {n : Int} {m : t.Carrier} :
    t.ofInt? n = some m ↔ n = m.val := by
  constructor
  · intro h
    unfold ofInt? at h
    split at h
    · cases h
      rfl
    · cases h
  · rintro rfl
    exact ofInt?_val m

/-- Every type is contained in the signed type of 64 bits. -/
theorem InRange.int64 {t : IntegerType} {n : Int} (h : t.InRange n) : int64.InRange n := by
  cases t <;> simp only [InRange, least, greatest] at h ⊢ <;> omega

/-- A member of a type as a member of the signed type of 64 bits. -/
def widen {t : IntegerType} (n : t.Carrier) : int64.Carrier :=
  ⟨n.val, n.property.int64⟩

/-- The number zero, which every type has. -/
def zero (t : IntegerType) : t.Carrier :=
  ⟨0, by cases t <;> decide⟩

/-- The number one, which every type has. -/
def one (t : IntegerType) : t.Carrier :=
  ⟨1, by cases t <;> decide⟩

end IntegerType

end EntitySql.Numeric
