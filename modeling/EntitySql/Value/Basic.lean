import EntitySql.Numeric.Layout
import EntitySql.Calendar.Text
import EntitySql.Uuid
import EntitySql.Json.Printing

/-!
# Scalar values

A value is what a literal, a bound parameter or a column of a row holds.

## Main definitions

* `Value` : the scalar values.
* `Value.kind` : the name of the kind of a value.
* `Value.agrees` : equality in which doubles are compared as numbers.
* `Value.display` : the text of a value in diagnostics.
-/

namespace EntitySql

open Numeric Calendar Text

/-- A scalar value. -/
inductive Value where
  | null
  | bool (b : Bool)
  | int (n : IntegerType.int64.Carrier)
  | float (x : Double)
  | text (s : String)
  | uuid (u : Uuid)
  | date (d : Date)
  | timestamp (t : Timestamp)
  /-- A timestamp in UTC. -/
  | timestampTz (t : Timestamp)
  | json (j : Json)

namespace Value

instance : Inhabited Value := ⟨null⟩

/-- The name of the kind of a value. -/
def kind : Value → String
  | null => "null"
  | bool _ => "bool"
  | int _ => "int"
  | float _ => "float"
  | text _ => "text"
  | uuid _ => "uuid"
  | date _ => "date"
  | timestamp _ => "timestamp"
  | timestampTz _ => "timestamptz"
  | json _ => "json"

/-- Whether a value is null. -/
def isNull : Value → Bool
  | null => true
  | _ => false

/-- Equality in which doubles are compared as numbers: a NaN differs from itself and the two zeros
are equal. -/
def agrees : Value → Value → Bool
  | null, null => true
  | bool a, bool b => a == b
  | int a, int b => a == b
  | float a, float b => a.agrees b
  | text a, text b => a == b
  | uuid a, uuid b => a == b
  | date a, date b => a == b
  | timestamp a, timestamp b => a == b
  | timestampTz a, timestampTz b => a == b
  | json a, json b => a.agrees b
  | _, _ => false

/-- The text of a boolean. -/
def boolText (b : Bool) : String :=
  if b then "true" else "false"

/-- The text of a value in diagnostics.  Texts are quoted; timestamps have a space between date and
time, or the notation of RFC 3339 if they are in UTC. -/
def display : Value → String
  | null => "null"
  | bool b => boolText b
  | int n => String.ofList (signedNumeral n.val)
  | float x => x.text
  | text s => quoted s
  | uuid u => String.ofList u.text
  | date d => String.ofList d.text
  | timestamp t => String.ofList (t.text ' ')
  | timestampTz t => String.ofList t.rfc3339
  | json j => j.render

end Value

end EntitySql
