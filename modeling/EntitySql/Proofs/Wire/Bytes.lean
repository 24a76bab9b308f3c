import EntitySql.Postgres.Wire

/-!
# Numbers and texts as bytes

What is written as bytes is read from them again: numbers below the limit of their width, integers
in the range of their width, and all texts.

## Main results

* `ofBigEndian_bigEndian` : the bytes of a number are read as the number.
* `ofSignedBytes?_signedBytes` : the bytes of an integer are read as the integer.
* `ofTextBytes?_textBytes` : the bytes of a text are read as the text.
-/

namespace EntitySql.Postgres

@[simp]
theorem length_bigEndian (count n : Nat) : (bigEndian count n).length = count := by
  induction count generalizing n with
  | zero => rfl
  | succ count ih => rw [bigEndian, List.length_append, ih, List.length_singleton]

/-- A byte behind others adds a place to the number that is read. -/
theorem ofBigEndian_concat (bytes : List UInt8) (b : UInt8) :
    ofBigEndian (bytes ++ [b]) = ofBigEndian bytes * 256 + b.toNat := by
  rw [ofBigEndian, List.foldl_append]
  rfl

/-- A number of which too many places are left out is read modulo its limit. -/
theorem ofBigEndian_bigEndian_mod (count n : Nat) :
    ofBigEndian (bigEndian count n) = n % Nat.pow 256 count := by
  induction count generalizing n with
  | zero => exact (Nat.mod_one n).symm
  | succ count ih =>
      have hbyte : (UInt8.ofNat (n % 256)).toNat = n % 256 := by
        rw [UInt8.toNat_ofNat', Nat.mod_mod]
      have hpow : Nat.pow 256 (count + 1) = 256 * Nat.pow 256 count := Nat.pow_succ'
      rw [bigEndian, ofBigEndian_concat, ih, hbyte, hpow, Nat.mod_mul]
      omega

theorem ofBigEndian_bigEndian {count n : Nat} (h : n < Nat.pow 256 count) :
    ofBigEndian (bigEndian count n) = n := by
  rw [ofBigEndian_bigEndian_mod, Nat.mod_eq_of_lt h]

theorem ofBytes?_bigEndian {count n : Nat} (h : n < Nat.pow 256 count) :
    ofBytes? count (bigEndian count n) = some n := by
  rw [ofBytes?, if_pos (length_bigEndian count n), ofBigEndian_bigEndian h]

/-- An integer in two's complement is read again if its width has room for it. -/
theorem ofSignedBytes?_signedBytes {count : Nat} {n : Int} (limit : Nat)
    (hlimit : Nat.pow 2 (8 * count) = 2 * limit) (hlow : -limit ≤ n) (hhigh : n < limit) :
    ofSignedBytes? count (signedBytes count n) = some n := by
  have hpow : Nat.pow 2 (8 * count) = Nat.pow 256 count := Nat.pow_mul 2 8 count
  have hnonneg : 0 ≤ n % Nat.pow 2 (8 * count) := Int.emod_nonneg n (by omega)
  have hlt : (n % Nat.pow 2 (8 * count)).toNat < Nat.pow 256 count := by
    have := Int.emod_lt_of_pos n (b := (Nat.pow 2 (8 * count) : Nat)) (by omega)
    omega
  have hread : (ofBigEndian (signedBytes count n) : Int) = n % Nat.pow 2 (8 * count) := by
    rw [signedBytes, ofBigEndian_bigEndian hlt, Int.toNat_of_nonneg hnonneg]
  have hlength : (signedBytes count n).length = count := length_bigEndian count _
  rw [ofSignedBytes?, if_pos hlength, hread, Int.emod_bmod, hlimit]
  exact congrArg some (Int.bmod_eq_of_le (by omega) (by omega))

theorem ofTextBytes?_textBytes (s : String) : ofTextBytes? (textBytes s) = some s := by
  have hbytes : (⟨(textBytes s).toArray⟩ : ByteArray) = s.toUTF8 := by
    rw [textBytes, Array.toArray_toList]
  rw [ofTextBytes?, hbytes, String.toUTF8_eq_toByteArray, String.fromUTF8?,
    dif_pos s.isValidUTF8]
  rfl

end EntitySql.Postgres
