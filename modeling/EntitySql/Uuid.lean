import EntitySql.Text.Quoted

/-!
# UUIDs

A UUID is sixteen bytes.  It is written in lower-case hexadecimal digits with hyphens behind the
fourth, sixth, eighth and tenth byte.  It is read in that form, without hyphens, in braces, or
behind `urn:uuid:`; digits may be of either case.

## Main definitions

* `Uuid` : sixteen bytes.
* `Uuid.text` : the written form.
* `Uuid.ofText?` : the UUID that a text denotes.
-/

namespace EntitySql

open Text

/-- Sixteen bytes. -/
structure Uuid where
  bytes : List UInt8
  length_bytes : bytes.length = 16
deriving DecidableEq

/-- The bytes of a text in hexadecimal digits, two for each byte. -/
def bytesOfHex? : List Char → Option (List UInt8)
  | [] => some []
  | [_] => none
  | a :: b :: rest => do
      let high ← hexValue? a
      let low ← hexValue? b
      let bytes ← bytesOfHex? rest
      some (UInt8.ofNat (16 * high + low) :: bytes)

/-- The two lower-case hexadecimal digits of each byte. -/
def hexOfBytes (bytes : List UInt8) : List Char :=
  bytes.flatMap fun b => [hexDigit (b.toNat / 16), hexDigit (b.toNat % 16)]

namespace Uuid

/-- The UUID with all bytes zero. -/
def zero : Uuid :=
  ⟨List.replicate 16 0, rfl⟩

/-- The UUID with the given bytes, if there are sixteen. -/
def ofBytes? (bytes : List UInt8) : Option Uuid :=
  if h : bytes.length = 16 then some ⟨bytes, h⟩ else none

/-- The written form. -/
def text (u : Uuid) : List Char :=
  let part (start count : Nat) := hexOfBytes ((u.bytes.drop start).take count)
  part 0 4 ++ '-' :: part 4 2 ++ '-' :: part 6 2 ++ '-' :: part 8 2 ++ '-' :: part 10 6

/-- The UUID of thirty-two hexadecimal digits. -/
def ofDigits? (cs : List Char) : Option Uuid :=
  (bytesOfHex? cs).bind ofBytes?

/-- The UUID of digits with hyphens at their four places. -/
def ofHyphenated? (cs : List Char) : Option Uuid :=
  if cs[8]? = some '-' ∧ cs[13]? = some '-' ∧ cs[18]? = some '-' ∧ cs[23]? = some '-' then
    ofDigits? (cs.take 8 ++ (cs.drop 9).take 4 ++ (cs.drop 14).take 4 ++ (cs.drop 19).take 4
      ++ cs.drop 24)
  else none

/-- The UUID that a text denotes. -/
def ofText? (cs : List Char) : Option Uuid :=
  match cs with
  | '\x7b' :: rest =>
      if rest.getLast? = some '\x7d' then ofHyphenated? rest.dropLast else none
  | 'u' :: 'r' :: 'n' :: ':' :: 'u' :: 'u' :: 'i' :: 'd' :: ':' :: rest => ofHyphenated? rest
  | cs => (ofDigits? cs).or (ofHyphenated? cs)

end Uuid

end EntitySql
