import EntitySql.Postgres.Row
import EntitySql.Proofs.Calendar.DayNumber
import EntitySql.Proofs.Wire.Bytes

/-!
# Parameters that come back as columns

A value is written into a buffer as a parameter of a type. Its kind and the type decide about the
format, and integers are narrowed to the width of the type. A column of the type is read by its type
alone. If the type was made for the kind of the value, then the value is read again, and the only
values that cannot be written are integers outside the range of the type.

## Main definitions

* `WriteAction.IsClean` : actions that append to the buffer, and nothing if they fail.
* `IsKept` : the values that a type keeps as they are.
* `FitsIn` : the range of the integers of a type.

## Main results

* `isClean_write` : values are written cleanly.
* `write_of_encode_error` : a value that cannot be a parameter leaves the buffer as it was.
* `IsKept.exists_encode` : the bytes of a value that fits are read as the value.
* `IsKept.valueAt_write` : a value that fits is written and read again, and any other one is refused
  before anything is written.
-/

namespace EntitySql.Postgres

open Numeric Calendar

/-! ### Buffers -/

namespace WriteAction

/-- An action that appends the same bytes to every buffer, and none if it fails. -/
structure IsClean (a : WriteAction) : Prop where
  append : ∀ out, a out = ((a []).1, out ++ (a []).2)
  failed : ∀ failure, (a []).1 = .error failure → (a []).2 = []

theorem isClean_pure (result : Except EncodingFailure Bool) :
    IsClean fun out => (result, out) :=
  ⟨fun out => by rw [List.append_nil], fun _ _ => rfl⟩

theorem isClean_put (accepted : List WireType) (t : WireType) (bytes : List UInt8) :
    (put accepted t bytes).IsClean := by
  by_cases h : t ∈ accepted
  · have hput : put accepted t bytes = fun out => (.ok false, out ++ bytes) :=
      funext fun _ => if_pos h
    rw [hput]
    exact ⟨fun out => by rw [List.nil_append], nofun⟩
  · have hput : put accepted t bytes = fun out => (.error .wrongType, out) :=
      funext fun _ => if_neg h
    rw [hput]
    exact isClean_pure _

theorem isClean_putNarrowed (k : IntegerType) (count : Nat) (t : WireType) (n : Int) :
    (putNarrowed k count t n).IsClean := by
  unfold putNarrowed
  split
  · exact isClean_put _ _ _
  · exact isClean_pure _

/-- A narrowed integer is written if it is in range. -/
theorem putNarrowed_apply (k : IntegerType) (count : Nat) (t : WireType) (n : Int)
    (out : List UInt8) : putNarrowed k count t n out =
      if k.InRange n then (.ok false, out ++ signedBytes count n)
      else (.error .outOfRange, out) := by
  unfold putNarrowed IntegerType.ofInt?
  by_cases h : k.InRange n
  · rw [dif_pos h, if_pos h]
    exact if_pos (List.mem_singleton_self t)
  · rw [dif_neg h, if_neg h]

end WriteAction

open WriteAction in
theorem isClean_write (v : Value) (t : WireType) : (write v t).IsClean := by
  cases v with
  | null => exact isClean_pure _
  | int n =>
      rw [write]
      split
      · exact isClean_putNarrowed _ _ _ _
      · split
        · exact isClean_putNarrowed _ _ _ _
        · exact isClean_put _ _ _
  | float x =>
      rw [write]
      split <;> exact isClean_put _ _ _
  | bool | text | uuid | date | timestamp | timestampTz | json => exact isClean_put _ _ _

variable {v : Value} {t : WireType}

theorem write_of_encode_some {bytes : List UInt8} (h : encode v t = .ok (some bytes))
    (out : List UInt8) : write v t out = (.ok false, out ++ bytes) := by
  have hwrite : write v t [] = (.ok false, bytes) := by
    unfold encode at h
    split at h
    · cases h
    · next hwrite =>
        cases h
        exact hwrite
    · cases h
  rw [(isClean_write v t).append, hwrite]

/-- A value that cannot be a parameter leaves the buffer as it was. -/
theorem write_of_encode_error {failure : EncodingFailure} (h : encode v t = .error failure)
    (out : List UInt8) : write v t out = (.error failure, out) := by
  have hfailure : (write v t []).1 = .error failure := by
    unfold encode at h
    split at h
    · cases h
    · cases h
    · next hwrite =>
        cases h
        rw [hwrite]
  have hclean := isClean_write v t
  rw [hclean.append, hfailure, hclean.failed failure hfailure, List.append_nil]

theorem encode_of_write_eq_put {accepted : List WireType} {bytes : List UInt8}
    (h : write v t = WriteAction.put accepted t bytes) (ht : t ∈ accepted) :
    encode v t = .ok (some bytes) := by
  simp [encode, h, WriteAction.put, ht]

/-! ### Kept values -/

/-- The values that a type keeps as they are: a timestamp must be a whole number of microseconds. -/
inductive IsKept : Value → WireType → Prop
  | bool (b : Bool) : IsKept (.bool b) .bool
  | int (n : IntegerType.int64.Carrier) {t} (h : t ∈ [.int2, .int4, .int8]) : IsKept (.int n) t
  | float (x : Double) : IsKept (.float x) .float8
  | text (s : String) {t} (h : t ∈ [.text, .varchar, .bpchar, .name]) : IsKept (.text s) t
  | uuid (u : Uuid) : IsKept (.uuid u) .uuid
  | date (d : Date) : IsKept (.date d) .date
  | timestamp {ts : Timestamp} (h : ts.IsWholeMicrosecond) : IsKept (.timestamp ts) .timestamp
  | timestampTz {ts : Timestamp} (h : ts.IsWholeMicrosecond) : IsKept (.timestampTz ts) .timestamptz

theorem decode_of_reader? {read : List UInt8 → Option Value} {bytes : List UInt8}
    (h : t.reader? = some read) (hread : read bytes = some v) : t.decode (some bytes) = .ok v := by
  simp [WireType.decode, h, hread]

/-- The integers of a type, with the count of their bytes. -/
def WireType.integerFormat? : WireType → Option (IntegerType × Nat)
  | int2 => some (.int16, 2)
  | int4 => some (.int32, 4)
  | int8 => some (.int64, 8)
  | _ => none

/-- An integer fits in a type if it is in its range; other values always fit. -/
def FitsIn (t : WireType) : Value → Prop
  | .int n => ∀ format ∈ t.integerFormat?, format.1.InRange n.val
  | _ => True

theorem exists_integerFormat? (h : t ∈ [.int2, .int4, .int8]) :
    ∃ k count, t.integerFormat? = some (k, count) := by
  simp only [List.mem_cons, List.not_mem_nil, or_false] at h
  obtain rfl | rfl | rfl := h <;> exact ⟨_, _, rfl⟩

section Integers

variable {k : IntegerType} {count : Nat} (n : IntegerType.int64.Carrier)

/-- An integer is written in the format of the type if it is in range. -/
theorem write_int (h : t.integerFormat? = some (k, count)) (out : List UInt8) :
    write (.int n) t out =
      if k.InRange n.val then (.ok false, out ++ signedBytes count n.val)
      else (.error .outOfRange, out) := by
  cases t with
  | int2 | int4 =>
      cases h
      exact WriteAction.putNarrowed_apply _ _ _ _ _
  | int8 =>
      cases h
      exact (if_pos n.property).symm
  | _ => cases h

theorem decode_int (h : t.integerFormat? = some (k, count)) (hrange : k.InRange n.val) :
    t.decode (some (signedBytes count n.val)) = .ok (.int n) := by
  obtain ⟨limit, hlimit, hlow, hhigh⟩ : ∃ limit : Nat, Nat.pow 2 (8 * count) = 2 * limit ∧
      -limit ≤ n.val ∧ n.val < limit := by
    cases t with
    | int2 =>
        cases h
        exact ⟨32768, rfl, hrange.1, Int.lt_of_le_of_lt hrange.2 (by decide)⟩
    | int4 =>
        cases h
        exact ⟨2147483648, rfl, hrange.1, Int.lt_of_le_of_lt hrange.2 (by decide)⟩
    | int8 =>
        cases h
        exact ⟨9223372036854775808, rfl, hrange.1, Int.lt_of_le_of_lt hrange.2 (by decide)⟩
    | _ => cases h
  have hreader : t.reader? = some (decodeInteger? count) := by
    cases t with
    | int2 | int4 | int8 =>
        cases h
        rfl
    | _ => cases h
  have hread : decodeInteger? count (signedBytes count n.val) = some (.int n) := by
    simp [decodeInteger?, ofSignedBytes?_signedBytes limit hlimit hlow hhigh,
      IntegerType.ofInt?_val]
  exact decode_of_reader? hreader hread

end Integers

section Texts

variable (s : String) (ht : t ∈ [.text, .varchar, .bpchar, .name])
include ht

/-- A text stands behind no version in the types whose columns are texts. -/
theorem encode_text : encode (.text s) t = .ok (some (textBytes s)) := by
  simp only [List.mem_cons, List.not_mem_nil, or_false] at ht
  have haccepted : t ∈ textTypes ++ treeTypes := by
    obtain rfl | rfl | rfl | rfl := ht <;> decide
  have hplain : t ∉ treeTypes := by
    obtain rfl | rfl | rfl | rfl := ht <;> decide
  have hwrite : write (.text s) t =
      WriteAction.put (textTypes ++ treeTypes) t (textBytes s) := by
    rw [write, if_neg hplain, List.nil_append]
  exact encode_of_write_eq_put hwrite haccepted

theorem decode_text : t.decode (some (textBytes s)) = .ok (.text s) := by
  simp only [List.mem_cons, List.not_mem_nil, or_false] at ht
  have hreader : t.reader? = some fun bytes => (ofTextBytes? bytes).map .text := by
    obtain rfl | rfl | rfl | rfl := ht <;> rfl
  refine decode_of_reader? hreader ?_
  rw [ofTextBytes?_textBytes, Option.map_some]

end Texts

theorem decodeTimestamp?_signedBytes {ts : Timestamp} (h : ts.IsWholeMicrosecond) :
    decodeTimestamp? (signedBytes 8 ts.toMicroseconds) = some ts := by
  have hbounds := Timestamp.toMicroseconds_lt h
  have hread : ofSignedBytes? 8 (signedBytes 8 ts.toMicroseconds) = some ts.toMicroseconds :=
    ofSignedBytes?_signedBytes 9223372036854775808 rfl hbounds.1 hbounds.2
  simp [decodeTimestamp?, hread, Timestamp.ofMicroseconds?_toMicroseconds h]

theorem decodeDate?_signedBytes (d : Date) :
    decodeDate? (signedBytes 4 d.toDays) = some (.date d) := by
  have hbounds := d.toDays_lt
  have hread : ofSignedBytes? 4 (signedBytes 4 d.toDays) = some d.toDays :=
    ofSignedBytes?_signedBytes 2147483648 rfl (by omega) (by omega)
  simp [decodeDate?, hread, Date.ofDays?_toDays]

/-- The bytes of a value that fits are read as the value. -/
theorem IsKept.exists_encode (h : IsKept v t) (hfits : FitsIn t v) :
    ∃ bytes, encode v t = .ok (some bytes) ∧ t.decode (some bytes) = .ok v := by
  cases h with
  | bool b => exact ⟨_, encode_of_write_eq_put rfl (by decide), by cases b <;> rfl⟩
  | int n ht =>
      obtain ⟨k, count, hformat⟩ := exists_integerFormat? ht
      have hrange := hfits _ hformat
      refine ⟨signedBytes count n.val, ?_, decode_int n hformat hrange⟩
      simp [encode, write_int n hformat, hrange]
  | float x =>
      have hlt : x.bits.toNat < Nat.pow 256 8 := Nat.lt_of_lt_of_eq x.bits.toNat_lt (by decide)
      have hwrite : write (.float x) .float8 =
          WriteAction.put [.float8] .float8 (bigEndian 8 x.bits.toNat) := by
        rw [write, if_neg nofun]
      refine ⟨_, encode_of_write_eq_put hwrite (by decide), decode_of_reader? rfl ?_⟩
      rw [ofBytes?_bigEndian hlt, Option.map_some, UInt64.ofNat_toNat]
  | text s ht => exact ⟨_, encode_text s ht, decode_text s ht⟩
  | uuid u =>
      have hread : Uuid.ofBytes? u.bytes = some u := dif_pos u.length_bytes
      refine ⟨_, encode_of_write_eq_put rfl (by decide), decode_of_reader? rfl ?_⟩
      rw [hread, Option.map_some]
  | date d =>
      exact ⟨_, encode_of_write_eq_put rfl (by decide),
        decode_of_reader? rfl (decodeDate?_signedBytes d)⟩
  | timestamp hts | timestampTz hts =>
      refine ⟨_, encode_of_write_eq_put rfl (by decide), decode_of_reader? rfl ?_⟩
      rw [decodeTimestamp?_signedBytes hts, Option.map_some]

/-- Only an integer may not fit, and then it is refused. -/
theorem IsKept.encode_of_not_fitsIn (h : IsKept v t) (hfits : ¬ FitsIn t v) :
    encode v t = .error .outOfRange := by
  cases h with
  | int n ht =>
      obtain ⟨k, count, hformat⟩ := exists_integerFormat? ht
      have hrange : ¬ k.InRange n.val := fun hrange => hfits fun format hmem => by
        obtain rfl := Option.some.inj (hformat.symm.trans hmem)
        exact hrange
      simp [encode, write_int n hformat, hrange]
  | _ => exact (hfits trivial).elim

/-- A value that fits in a type is written as a parameter of the type, and a column with these bytes
is read as the value. Any other value is refused before anything is written. -/
theorem IsKept.valueAt_write (h : IsKept v t) (out : List UInt8) :
    (FitsIn t v → ∃ bytes, write v t out = (.ok false, out ++ bytes) ∧
      ∀ (r : PostgresRow) (i : Nat) (name : String),
        r.cells[i]? = some (⟨name, t⟩, some bytes) → r.valueAt i = .ok v) ∧
    (¬ FitsIn t v → write v t out = (.error .outOfRange, out)) := by
  refine ⟨fun hfits => ?_, fun hfits => write_of_encode_error (h.encode_of_not_fitsIn hfits) out⟩
  obtain ⟨bytes, hbytes, hdecode⟩ := h.exists_encode hfits
  refine ⟨bytes, write_of_encode_some hbytes out, fun r i name hcell => ?_⟩
  rw [PostgresRow.valueAt, hcell]
  exact congrArg (Except.mapError _) hdecode

/-- The last microsecond of 1999. -/
def beforeOrigin : Timestamp :=
  ⟨⟨1999, 12, 31, by decide⟩, ⟨23, 59, 59, 999999000, by decide⟩⟩

theorem IsKept.valueAt_write_beforeOrigin :
    (∃ bytes, write (.timestamp beforeOrigin) .timestamp [0] = (.ok false, [0] ++ bytes) ∧
      ∀ (r : PostgresRow) (i : Nat) (name : String),
        r.cells[i]? = some (⟨name, .timestamp⟩, some bytes) →
          r.valueAt i = .ok (.timestamp beforeOrigin)) ∧
    write (.int ⟨-32769, by decide⟩) .int2 [0] = (.error .outOfRange, [0]) := by
  have hwhole : IsKept (.timestamp beforeOrigin) .timestamp := .timestamp (by decide)
  have hnarrow : IsKept (.int ⟨-32769, by decide⟩) .int2 := .int _ (by decide)
  have hrefused : ¬ FitsIn .int2 (.int ⟨-32769, by decide⟩) := fun h =>
    absurd (h (.int16, 2) rfl) (by decide)
  exact ⟨(hwhole.valueAt_write [0]).1 trivial, (hnarrow.valueAt_write [0]).2 hrefused⟩

end EntitySql.Postgres
