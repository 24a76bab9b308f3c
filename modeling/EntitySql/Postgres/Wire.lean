import EntitySql.Value.Conversion

/-!
# Binary formats of Postgres

Parameters and columns travel in the binary format of their type: integers and floats with the most
significant byte first, texts in UTF-8, dates as days and timestamps as microseconds from the start
of 2000, JSON as text.

## Main definitions

* `WireType` : the types, with their names.
* `bigEndian`, `ofBigEndian` : numbers as bytes.
* `write` : writing a value as a parameter of a type.
* `encode` : the bytes of a value as a parameter of a type.
* `WireType.decode` : the value of the bytes of a column of a type.
-/

namespace EntitySql.Postgres

open Numeric Calendar

/-- The types of parameters and columns.  A type that is not among those listed is known by name. -/
inductive WireType where
  | bool
  | int2
  | int4
  | int8
  | float4
  | float8
  | text
  | varchar
  | bpchar
  | name
  | unknown
  | uuid
  | date
  | timestamp
  | timestamptz
  | json
  | jsonb
  | other (name : String)
deriving DecidableEq

namespace WireType

/-- The name of a type. -/
def label : WireType → String
  | bool => "bool"
  | int2 => "int2"
  | int4 => "int4"
  | int8 => "int8"
  | float4 => "float4"
  | float8 => "float8"
  | text => "text"
  | varchar => "varchar"
  | bpchar => "bpchar"
  | name => "name"
  | unknown => "unknown"
  | uuid => "uuid"
  | date => "date"
  | timestamp => "timestamp"
  | timestamptz => "timestamptz"
  | json => "json"
  | jsonb => "jsonb"
  | other label => label

/-- The types that are listed, and not known by name alone. -/
def known : List WireType :=
  [bool, int2, int4, int8, float4, float8, text, varchar, bpchar, name, unknown, uuid, date,
    timestamp, timestamptz, json, jsonb]

/-- The type with a given name. -/
def ofLabel (label : String) : WireType :=
  (known.find? (·.label = label)).getD (other label)

end WireType

/-! ### Bytes -/

/-- A number as a given count of bytes, the most significant first. -/
def bigEndian : Nat → Nat → List UInt8
  | 0, _ => []
  | count + 1, n => bigEndian count (n / 256) ++ [UInt8.ofNat (n % 256)]

/-- The number of bytes, the most significant first. -/
def ofBigEndian (bytes : List UInt8) : Nat :=
  bytes.foldl (fun n b => n * 256 + b.toNat) 0

/-- An integer in two's complement as a given count of bytes. -/
def signedBytes (count : Nat) (n : Int) : List UInt8 :=
  bigEndian count (n % Nat.pow 2 (8 * count)).toNat

/-- The integer of a given count of bytes in two's complement. -/
def ofSignedBytes? (count : Nat) (bytes : List UInt8) : Option Int :=
  if bytes.length = count then some (Int.bmod (ofBigEndian bytes) (Nat.pow 2 (8 * count))) else none

/-- The number of a given count of bytes. -/
def ofBytes? (count : Nat) (bytes : List UInt8) : Option Nat :=
  if bytes.length = count then some (ofBigEndian bytes) else none

/-- A text in UTF-8. -/
def textBytes (s : String) : List UInt8 :=
  s.toUTF8.data.toList

/-- The text of bytes in UTF-8. -/
def ofTextBytes? (bytes : List UInt8) : Option String :=
  String.fromUTF8? ⟨bytes.toArray⟩

/-- The first byte of JSON in its binary format. -/
def jsonbVersion : UInt8 := 1

/-- The types whose parameters are texts. -/
def textTypes : List WireType :=
  [.text, .varchar, .bpchar, .name, .unknown, .other "citext"]

/-- The types of label trees and of their patterns, whose parameters are texts behind a version. -/
def treeTypes : List WireType :=
  [.other "ltree", .other "lquery", .other "ltxtquery"]

/-- The first byte of a label tree, or of a pattern for label trees. -/
def treeVersion : UInt8 := 1

/-! ### Parameters -/

/-- Why a value cannot be a parameter of a type. -/
inductive EncodingFailure where
  | wrongType
  | outOfRange
deriving DecidableEq

/-- An action on the buffer of a parameter.  It tells whether the parameter is null, and what it has
written before a failure stays in the buffer. -/
abbrev WriteAction : Type :=
  List UInt8 → Except EncodingFailure Bool × List UInt8

namespace WriteAction

/-- Writes bytes if the type of the parameter is one of those that have them. -/
def put (accepted : List WireType) (t : WireType) (bytes : List UInt8) : WriteAction := fun out =>
  if t ∈ accepted then (.ok false, out ++ bytes) else (.error .wrongType, out)

/-- Narrows an integer and writes its bytes. -/
def putNarrowed (k : IntegerType) (count : Nat) (t : WireType) (n : Int) : WriteAction :=
  match k.ofInt? n with
  | some m => put [t] t (signedBytes count m.val)
  | none => fun out => (.error .outOfRange, out)

end WriteAction

open WriteAction in
/-- Writes a value as a parameter of a type.  An integer is narrowed if it fits, and a double is
rounded; null is written in no type. -/
def write : Value → WireType → WriteAction
  | .null, _ => fun out => (.ok true, out)
  | .bool b, t => put [.bool] t [if b then 1 else 0]
  | .int n, t =>
      if t = .int2 then putNarrowed .int16 2 t n.val
      else if t = .int4 then putNarrowed .int32 4 t n.val
      else put [.int8] t (signedBytes 8 n.val)
  | .float x, t =>
      if t = .float4 then put [.float4] t (bigEndian 4 x.toSingle.bits.toNat)
      else put [.float8] t (bigEndian 8 x.bits.toNat)
  | .text s, t =>
      put (textTypes ++ treeTypes) t ((if t ∈ treeTypes then [treeVersion] else []) ++ textBytes s)
  | .uuid u, t => put [.uuid] t u.bytes
  | .date d, t => put [.date] t (signedBytes 4 d.toDays)
  | .timestamp ts, t => put [.timestamp] t (signedBytes 8 ts.toMicroseconds)
  | .timestampTz ts, t => put [.timestamptz] t (signedBytes 8 ts.toMicroseconds)
  | .json j, t =>
      put [.json, .jsonb] t ((if t = .jsonb then [jsonbVersion] else []) ++ textBytes j.render)

/-- The bytes of a value as a parameter of a type; null has none. -/
def encode (v : Value) (t : WireType) : Except EncodingFailure (Option (List UInt8)) :=
  match write v t [] with
  | (.ok true, _) => .ok none
  | (.ok false, bytes) => .ok (some bytes)
  | (.error failure, _) => .error failure

/-! ### Columns -/

/-- A truth value: one byte, false if it is zero. -/
def decodeBool? : List UInt8 → Option Value
  | [b] => some (.bool (b ≠ 0))
  | _ => none

/-- An integer of a given count of bytes. -/
def decodeInteger? (count : Nat) (bytes : List UInt8) : Option Value := do
  let n ← ofSignedBytes? count bytes
  let n ← IntegerType.int64.ofInt? n
  some (.int n)

/-- A date in range. -/
def decodeDate? (bytes : List UInt8) : Option Value := do
  let days ← ofSignedBytes? 4 bytes
  let d ← Date.ofDays? days
  some (.date d)

/-- A timestamp in range. -/
def decodeTimestamp? (bytes : List UInt8) : Option Timestamp := do
  let micros ← ofSignedBytes? 8 bytes
  Timestamp.ofMicroseconds? micros

/-- JSON as text. -/
def decodeJson? (bytes : List UInt8) : Option Value := do
  let s ← ofTextBytes? bytes
  let j ← Json.ofText? s
  some (.json j)

/-- JSON behind the byte of its version. -/
def decodeJsonb? : List UInt8 → Option Value
  | version :: bytes => if version = jsonbVersion then decodeJson? bytes else none
  | [] => none

/-- How the bytes of a column are read, for the types that can be read. -/
def WireType.reader? : WireType → Option (List UInt8 → Option Value)
  | bool => some decodeBool?
  | int2 => some (decodeInteger? 2)
  | int4 => some (decodeInteger? 4)
  | int8 => some (decodeInteger? 8)
  | float4 => some fun bytes =>
      (ofBytes? 4 bytes).map fun n => .float (Single.widen ⟨UInt32.ofNat n⟩)
  | float8 => some fun bytes => (ofBytes? 8 bytes).map fun n => .float ⟨UInt64.ofNat n⟩
  | text | varchar | bpchar | name => some fun bytes => (ofTextBytes? bytes).map .text
  | uuid => some fun bytes => (Uuid.ofBytes? bytes).map .uuid
  | date => some decodeDate?
  | timestamp => some fun bytes => (decodeTimestamp? bytes).map .timestamp
  | timestamptz => some fun bytes => (decodeTimestamp? bytes).map .timestampTz
  | json => some decodeJson?
  | jsonb => some decodeJsonb?
  | unknown | other _ => none

/-- The value of a column of a type.  A type that cannot be read is an error even for null. -/
def WireType.decode (t : WireType) (content : Option (List UInt8)) :
    Except ConversionFailure Value :=
  match t.reader?, content with
  | none, _ => .error (.unsupportedColumn t.label)
  | some _, none => .ok .null
  | some read, some bytes =>
      match read bytes with
      | some v => .ok v
      | none => .error .undecodable

end EntitySql.Postgres
