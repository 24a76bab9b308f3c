import EntitySql.Text.Blank
import EntitySql.Numeric.Reading
import EntitySql.Calendar.Reading
import EntitySql.Json.Reading
import EntitySql.Value.FieldType

/-!
# Conversion of values to field types

A column may deliver a value of another kind than the field has: an integer for a flag, a text for a
date.  Each field type says which values it takes.  Texts are trimmed before they are read, except
for flags, for JSON, and where the text itself is wanted.

## Main definitions

* `ConversionFailure` : why a value is no content for a field, with its message.
* `FieldType.ofValue` : the content that a value gives to a field.
-/

namespace EntitySql

open Numeric Calendar Text

/-- Why a value could not be converted or a column could not be read. -/
inductive ConversionFailure where
  /-- The value is of a kind, or has a text, that the target does not take. -/
  | mismatch (value : Value) (target : FieldType)
  | outOfRange (n : Int) (target : IntegerType)
  /-- The text is no JSON.  Where the reader of JSON has stopped, and why, is not kept. -/
  | invalidJson
  | columnOutOfRange
  | unsupportedColumn (typeName : String)
  /-- The bytes of a column are no value of its type.  What the driver misses in them is not
  kept. -/
  | undecodable

/-- The wording of a failure.  For a text that is no JSON, and for bytes that are no value, the
reader and the driver add words of their own behind the ones given here. -/
def ConversionFailure.message : ConversionFailure → String
  | mismatch value target =>
      "cannot convert " ++ value.kind ++ " value " ++ value.display ++ " to " ++ target.name
  | outOfRange n target =>
      String.ofList (signedNumeral n) ++ " is out of range for " ++ target.name
  | invalidJson => "invalid json text: "
  | columnOutOfRange => "column index out of range"
  | unsupportedColumn typeName => "unsupported column type " ++ typeName
  | undecodable => "error deserializing column"

namespace FieldType

/-- A flag: a boolean, one of the integers 0 and 1, or a text for one of these. -/
def readBool : Value → Option Bool
  | .bool b => some b
  | .int n => if n.val = 0 then some false else if n.val = 1 then some true else none
  | .text s =>
      let word := s.toLower
      if word = "true" ∨ word = "1" then some true
      else if word = "false" ∨ word = "0" then some false
      else none
  | _ => none

/-- The integer of a double that is integral.  It is clamped to 64 bits, and must then still be
equal to the double as a number. -/
def integerOfDouble? (x : Double) : Option IntegerType.int64.Carrier := do
  let n ← x.toInt?
  let wide := Double.saturated n
  if (Double.ofInt wide.val).agrees x then some wide else none

/-- An integer: an integer in range, a boolean, an integral double, or a numeral. -/
def readInteger (t : IntegerType) : Value → Except ConversionFailure t.Carrier
  | .int n =>
      match t.ofInt? n.val with
      | some m => .ok m
      | none => .error (.outOfRange n.val t)
  | .bool b => .ok (if b then t.one else t.zero)
  | .float x =>
      match (integerOfDouble? x).bind fun n => t.ofInt? n.val with
      | some m => .ok m
      | none => .error (.mismatch (.float x) (.integer t))
  | .text s =>
      match (integer? t.signed (trim s.toList)).bind t.ofInt? with
      | some m => .ok m
      | none => .error (.mismatch (.text s) (.integer t))
  | v => .error (.mismatch v (.integer t))

/-- A double: a double, an integer, or a numeral. -/
def readDouble : Value → Option Double
  | .float x => some x
  | .int n => some (.ofInt n.val)
  | .text s => Double.ofText? (trim s.toList)
  | _ => none

/-- A text: the text itself, the string of a JSON string, or the display of any other value but
null. -/
def readText : Value → Option String
  | .null => none
  | .text s => some s
  | .json (.string s) => some s
  | v => some v.display

/-- A UUID, or its text. -/
def readUuid : Value → Option Uuid
  | .uuid u => some u
  | .text s => Uuid.ofText? (trim s.toList)
  | _ => none

/-- A date, the date of a timestamp, or a text. -/
def readDate : Value → Option Date
  | .date d => some d
  | .timestamp t | .timestampTz t => some t.date
  | .text s => Date.ofText? (trim s.toList)
  | _ => none

/-- A timestamp, the start of a date, or a text. -/
def readTimestamp : Value → Option Timestamp
  | .timestamp t | .timestampTz t => some t
  | .date d => some (.atMidnight d)
  | .text s => Timestamp.ofText? (trim s.toList)
  | _ => none

/-- A timestamp in UTC, or a text with an offset. -/
def readTimestampTz : Value → Option Timestamp
  | .timestampTz t | .timestamp t => some t
  | .text s => Timestamp.ofRfc3339? (trim s.toList)
  | _ => none

/-- A JSON value, or its text. -/
def readJson : Value → Except ConversionFailure Json
  | .json j => .ok j
  | .text s =>
      match Json.ofText? s with
      | some j => .ok j
      | none => .error .invalidJson
  | v => .error (.mismatch v .json)

/-- What was read, or the failure that the value does not fit the target. -/
def orMismatch {α : Type} (value : Value) (target : FieldType) :
    Option α → Except ConversionFailure α
  | some a => .ok a
  | none => .error (.mismatch value target)

/-- The content that a value gives to a field of a type.  No field is read as a signed integer of 8
bits; that type follows the rule of the other integers only so that every type has a conversion. -/
def ofValue : (t : FieldType) → Value → Except ConversionFailure t.Carrier
  | bool, v => orMismatch v bool (readBool v)
  | integer t, v => readInteger t v
  | single, v => orMismatch v double ((readDouble v).map Double.toSingle)
  | double, v => orMismatch v double (readDouble v)
  | text, v => orMismatch v text (readText v)
  | uuid, v => orMismatch v uuid (readUuid v)
  | date, v => orMismatch v date (readDate v)
  | timestamp, v => orMismatch v timestamp (readTimestamp v)
  | timestampTz, v => orMismatch v timestampTz (readTimestampTz v)
  | json, v => readJson v
  | value, v => .ok v
  | optional t, v => if v.isNull then .ok none else (ofValue t v).map some

end FieldType

end EntitySql
