import EntitySql.Numeric.Double

/-!
# JSON values

A JSON value as the program keeps it: numbers are integers or doubles, and the members of an object
are sorted by name, each name once.

## Main definitions

* `Json` : the values.
* `Json.agrees` : equality in which doubles are compared as numbers.
-/

namespace EntitySql

open Numeric

/-- A JSON value. -/
inductive Json where
  | null
  | bool (b : Bool)
  | integer (n : Int)
  | real (x : Double)
  | string (s : String)
  | array (items : List Json)
  | object (members : List (String × Json))

namespace Json

mutual

/-- Equality in which doubles are compared as numbers.  An integer never equals a double. -/
def agrees : Json → Json → Bool
  | .null, .null => true
  | .bool a, .bool b => a == b
  | .integer a, .integer b => a == b
  | .real a, .real b => a.agrees b
  | .string a, .string b => a == b
  | .array a, .array b => itemsAgree a b
  | .object a, .object b => membersAgree a b
  | _, _ => false

/-- Item by item. -/
def itemsAgree : List Json → List Json → Bool
  | [], [] => true
  | a :: as, b :: bs => agrees a b && itemsAgree as bs
  | _, _ => false

/-- Member by member, with the same names. -/
def membersAgree : List (String × Json) → List (String × Json) → Bool
  | [], [] => true
  | (k, a) :: as, (l, b) :: bs => k == l && agrees a b && membersAgree as bs
  | _, _ => false

end

end Json

end EntitySql
