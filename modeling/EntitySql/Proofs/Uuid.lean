import Mathlib.Data.List.Basic
import EntitySql.Uuid
import EntitySql.Text.Blank

/-!
# UUIDs are read back

The two hexadecimal digits of a byte denote it, and so do the thirty-two digits of a UUID, behind
each other or with hyphens between the parts of the written form.

## Main results

* `bytesOfHex?_hexOfBytes_append` : bytes are found again from their digits.
* `Uuid.ofHyphenated?_parts` : hyphens between the parts are dropped.
* `Uuid.ofText?_text` : a UUID is found again from its written form.
-/

namespace EntitySql

open Text

/-! ### Digits -/

theorem hexValue?_hexDigit {d : Nat} (h : d < 16) : hexValue? (hexDigit d) = some d := by
  revert d
  decide

theorem isBlank_hexDigit {d : Nat} (h : d < 16) : isBlank (hexDigit d) = false := by
  revert d
  decide

theorem div_sixteen_lt (b : UInt8) : b.toNat / 16 < 16 := by
  have := b.toNat_lt
  omega

theorem mod_sixteen_lt (b : UInt8) : b.toNat % 16 < 16 :=
  Nat.mod_lt _ (by decide)

theorem length_hexOfBytes (bytes : List UInt8) : (hexOfBytes bytes).length = 2 * bytes.length := by
  simp [hexOfBytes, Nat.mul_comm]

theorem hexOfBytes_append (bytes bytes' : List UInt8) :
    hexOfBytes (bytes ++ bytes') = hexOfBytes bytes ++ hexOfBytes bytes' :=
  List.flatMap_append

theorem isBlank_of_mem_hexOfBytes {bytes : List UInt8} {c : Char} (h : c ∈ hexOfBytes bytes) :
    isBlank c = false := by
  obtain ⟨b, -, hc⟩ := List.mem_flatMap.mp h
  simp only [List.mem_cons, List.not_mem_nil, or_false] at hc
  rcases hc with rfl | rfl
  · exact isBlank_hexDigit (div_sixteen_lt b)
  · exact isBlank_hexDigit (mod_sixteen_lt b)

/-- Bytes are found again from their digits, in front of whatever follows. -/
theorem bytesOfHex?_hexOfBytes_append (bytes : List UInt8) (rest : List Char) :
    bytesOfHex? (hexOfBytes bytes ++ rest) = (bytesOfHex? rest).map (bytes ++ ·) := by
  induction bytes with
  | nil => simp [hexOfBytes]
  | cons b bytes ih =>
      have hsplit : hexOfBytes (b :: bytes) ++ rest = hexDigit (b.toNat / 16) ::
          hexDigit (b.toNat % 16) :: (hexOfBytes bytes ++ rest) := by
        simp [hexOfBytes]
      have hb : UInt8.ofNat (16 * (b.toNat / 16) + b.toNat % 16) = b := by
        rw [Nat.div_add_mod, UInt8.ofNat_toNat]
      rw [hsplit, bytesOfHex?, ih, hexValue?_hexDigit (div_sixteen_lt b),
        hexValue?_hexDigit (mod_sixteen_lt b)]
      simp only [Option.bind_eq_bind, Option.bind_some, hb]
      cases bytesOfHex? rest <;> rfl

theorem bytesOfHex?_hyphen (rest : List Char) : bytesOfHex? ('-' :: rest) = none := by
  cases rest <;> rfl

/-! ### The written form -/

namespace Uuid

theorem ofBytes?_bytes (u : Uuid) : ofBytes? u.bytes = some u :=
  dif_pos u.length_bytes

theorem ofDigits?_hexOfBytes (u : Uuid) : ofDigits? (hexOfBytes u.bytes) = some u := by
  have hbytes := bytesOfHex?_hexOfBytes_append u.bytes []
  rw [List.append_nil] at hbytes
  rw [ofDigits?, hbytes, bytesOfHex?, Option.map_some, List.append_nil, Option.bind_some,
    ofBytes?_bytes]

/-- Hyphens between parts of eight, four, four, four and any number of digits are dropped. -/
theorem ofHyphenated?_parts {p q r s : List Char} (hp : p.length = 8) (hq : q.length = 4)
    (hr : r.length = 4) (hs : s.length = 4) (t : List Char) :
    ofHyphenated? (p ++ '-' :: q ++ '-' :: r ++ '-' :: s ++ '-' :: t) =
      ofDigits? (p ++ q ++ r ++ s ++ t) := by
  simp [ofHyphenated?, List.drop_append, List.getElem?_append, hp, hq, hr, hs,
    List.drop_of_length_le]

/-- The digits of bytes between two places. -/
def part (u : Uuid) (start count : Nat) : List Char :=
  hexOfBytes ((u.bytes.drop start).take count)

theorem text_eq_parts (u : Uuid) : u.text = u.part 0 4 ++ '-' :: u.part 4 2 ++ '-' :: u.part 6 2 ++
    '-' :: u.part 8 2 ++ '-' :: u.part 10 6 := rfl

theorem length_part (u : Uuid) {start count : Nat} (h : start + count ≤ 16) :
    (u.part start count).length = 2 * count := by
  have := u.length_bytes
  rw [part, length_hexOfBytes, List.length_take, List.length_drop]
  omega

theorem parts_append (u : Uuid) : u.part 0 4 ++ u.part 4 2 ++ u.part 6 2 ++ u.part 8 2 ++
    u.part 10 6 = hexOfBytes u.bytes := by
  have hall : u.bytes.take (4 + 2 + 2 + 2 + 6) = u.bytes :=
    List.take_of_length_le (Nat.le_of_eq u.length_bytes)
  simp only [part, ← hexOfBytes_append, List.drop_zero, ← List.take_add, hall]

theorem ofDigits?_text (u : Uuid) : ofDigits? u.text = none := by
  have hsplit : u.text = u.part 0 4 ++
      '-' :: (u.part 4 2 ++ '-' :: u.part 6 2 ++ '-' :: u.part 8 2 ++ '-' :: u.part 10 6) := by
    simp [text_eq_parts]
  rw [ofDigits?, hsplit, part, bytesOfHex?_hexOfBytes_append, bytesOfHex?_hyphen]
  rfl

theorem ofHyphenated?_text (u : Uuid) : ofHyphenated? u.text = some u := by
  rw [text_eq_parts, ofHyphenated?_parts (u.length_part (by decide)) (u.length_part (by decide))
    (u.length_part (by decide)) (u.length_part (by decide)), parts_append, ofDigits?_hexOfBytes]

theorem exists_text_eq (u : Uuid) : ∃ d rest, d < 16 ∧ u.text = hexDigit d :: rest := by
  have hne : u.bytes ≠ [] := by
    intro hnil
    have := u.length_bytes
    simp [hnil] at this
  obtain ⟨b, bytes, hbytes⟩ := List.exists_cons_of_ne_nil hne
  have hpart : u.part 0 4 = hexDigit (b.toNat / 16) :: hexDigit (b.toNat % 16) ::
      hexOfBytes (bytes.take 3) := by
    simp [part, hbytes, hexOfBytes]
  rw [text_eq_parts, hpart]
  exact ⟨b.toNat / 16, _, div_sixteen_lt b, rfl⟩

/-- A text that starts with a digit starts neither with a brace nor with a name. -/
theorem ofText?_cons {c : Char} (h : (hexValue? c).isSome) (rest : List Char) :
    ofText? (c :: rest) = (ofDigits? (c :: rest)).or (ofHyphenated? (c :: rest)) := by
  unfold ofText?
  split
  · next heq =>
      cases heq
      exact absurd h (by decide)
  · next heq =>
      cases heq
      exact absurd h (by decide)
  · rfl

/-- A UUID is found again from its written form. -/
theorem ofText?_text (u : Uuid) : ofText? u.text = some u := by
  obtain ⟨d, rest, hd, htext⟩ := u.exists_text_eq
  have hdigit : (hexValue? (hexDigit d)).isSome := by rw [hexValue?_hexDigit hd, Option.isSome_some]
  have hread := ofText?_cons hdigit rest
  rwa [← htext, ofDigits?_text, ofHyphenated?_text, Option.none_or] at hread

theorem isBlank_of_mem_text {u : Uuid} : ∀ c ∈ u.text, isBlank c = false := by
  have hpart (start count : Nat) : ∀ c ∈ u.part start count, isBlank c = false :=
    fun _ => isBlank_of_mem_hexOfBytes
  have hhyphen : isBlank '-' = false := by decide
  simp only [text_eq_parts, List.forall_mem_append, List.forall_mem_cons]
  exact ⟨⟨⟨⟨hpart 0 4, hhyphen, hpart 4 2⟩, hhyphen, hpart 6 2⟩, hhyphen, hpart 8 2⟩, hhyphen,
    hpart 10 6⟩

end Uuid

end EntitySql
