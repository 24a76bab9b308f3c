import EntitySql.Value.Basic

/-!
# Types of entity fields

A field of an entity has one of the types below; an optional type adds the absent value, which
stands for null.

## Main definitions

* `FieldType` : the types of fields.
* `FieldType.Carrier` : what a field of a type holds.
* `FieldType.name` : the name of a type in messages.
* `FieldType.blank` : the content of a field that has not been set.
* `FieldType.toValue` : the content of a field as a value.
-/

namespace EntitySql

open Numeric Calendar

/-- The types of fields. -/
inductive FieldType where
  | bool
  | integer (t : IntegerType)
  | single
  | double
  | text
  | uuid
  | date
  | timestamp
  | timestampTz
  | json
  | value
  | optional (t : FieldType)
deriving DecidableEq

namespace FieldType

/-- What a field of a type holds. -/
def Carrier : FieldType → Type
  | bool => Bool
  | integer t => t.Carrier
  | single => Single
  | double => Double
  | text => String
  | uuid => Uuid
  | date => Date
  | timestamp | timestampTz => Timestamp
  | json => Json
  | value => Value
  | optional t => Option t.Carrier

/-- The name of a type in messages.  A single is read as a double, and an optional type is named for
what it may hold. -/
def name : FieldType → String
  | bool => "bool"
  | integer t => t.name
  | single | double => "f64"
  | text => "String"
  | uuid => "Uuid"
  | date => "NaiveDate"
  | timestamp => "NaiveDateTime"
  | timestampTz => "DateTime<Utc>"
  | json => "serde_json::Value"
  | value => "Value"
  | optional t => t.name

/-- The content of a field that has not been set. -/
def blank : (t : FieldType) → t.Carrier
  | bool => false
  | integer t => t.zero
  | single => Single.zero
  | double => Double.zero
  | text => ""
  | uuid => Uuid.zero
  | date => Date.epoch
  | timestamp | timestampTz => Timestamp.epoch
  | json => Json.null
  | value => Value.null
  | optional _ => none

/-- The content of a field as a value.  A single widens by way of its shortest text. -/
def toValue : (t : FieldType) → t.Carrier → Value
  | bool, b => .bool b
  | integer _, n => .int (IntegerType.widen n)
  | single, x => .float x.widen
  | double, x => .float x
  | text, s => .text s
  | uuid, u => .uuid u
  | date, d => .date d
  | timestamp, t => .timestamp t
  | timestampTz, t => .timestampTz t
  | json, j => .json j
  | value, v => v
  | optional t, some x => toValue t x
  | optional _, none => .null

end FieldType

end EntitySql
