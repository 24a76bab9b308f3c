import EntitySql.Error

/-!
# Rows

A query returns rows with named columns.  A column is found by its exact name, or else by its name
in any ASCII case, since a database may fold the names it is given.

## Main definitions

* `ordinalIn?` : the place of a column among the names of a row.
* `DataRow` : the rows that entities can be filled from.
* `Record` : a row kept as a list of cells.

## Main results

* `lt_length_of_ordinalIn?` : a place that was found is a place in the row.
-/

namespace EntitySql

/-- Whether two names are equal but for the case of ASCII letters. -/
def sameFolded (a b : String) : Bool :=
  a.toList.map Char.toLower == b.toList.map Char.toLower

/-- The place of a column: the first exact match, or else the first match in any case. -/
def ordinalIn? (columns : List String) (name : String) : Option Nat :=
  (columns.findIdx? (· = name)).or (columns.findIdx? fun c => sameFolded c name)

theorem lt_length_of_ordinalIn? {columns : List String} {name : String} {i : Nat}
    (h : ordinalIn? columns name = some i) : i < columns.length := by
  have bound : ∀ {p : String → Bool}, columns.findIdx? p = some i → i < columns.length :=
    fun hp => (List.findIdx?_eq_some_iff_getElem.mp hp).1
  unfold ordinalIn? at h
  cases he : columns.findIdx? (fun c => decide (c = name)) with
  | none =>
      rw [he, Option.none_or] at h
      exact bound h
  | some j =>
      rw [he, Option.some_or] at h
      cases h
      exact bound he

/-- The rows that entities can be filled from. -/
class DataRow (ρ : Type) where
  /-- The place of a column, if the row has it. -/
  ordinal? : ρ → String → Option Nat
  /-- The value at a place. -/
  valueAt : ρ → Nat → Except Error Value

/-- The value of a column, if the row has it. -/
def DataRow.value? {ρ : Type} [DataRow ρ] (row : ρ) (name : String) :
    Except Error (Option Value) :=
  match DataRow.ordinal? row name with
  | some i => (DataRow.valueAt row i).map some
  | none => .ok none

/-- The error that a row has no such place. -/
def columnOutOfRange (i : Nat) : Error :=
  .ofFailure (String.ofList (Text.numeral i)) .columnOutOfRange

/-- A row kept as a list of named values. -/
structure Record where
  cells : List (String × Value)

namespace Record

/-- The row without columns. -/
def empty : Record :=
  ⟨[]⟩

/-- A row with one more column at its end. -/
def push (r : Record) (name : String) (v : Value) : Record :=
  ⟨r.cells ++ [(name, v)]⟩

/-- The names of the columns. -/
def columns (r : Record) : List String :=
  r.cells.map (·.1)

/-- The value at a place. -/
def valueAt (r : Record) (i : Nat) : Except Error Value :=
  match r.cells[i]? with
  | some cell => .ok cell.2
  | none => .error (columnOutOfRange i)

instance : DataRow Record where
  ordinal? r := ordinalIn? r.columns
  valueAt := valueAt

/-- The value of a column, if the row has it. -/
def field? (r : Record) (name : String) : Option Value :=
  (ordinalIn? r.columns name).bind fun i => (r.cells[i]?).map (·.2)

end Record

end EntitySql
