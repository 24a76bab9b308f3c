import EntitySql.Entity.Basic
import EntitySql.Row.Basic

/-!
# Mapping rows to entities

A row fills the blank object of an entity type column by column.  A column that the row does not
have, or whose value is null, leaves the object as it is; the absent columns are reported.

## Main definitions

* `Mapped` : the outcome of a mapping with the absent columns.
* `EntityType.mapRow` : the entity of a row.
* `EntityType.mapRows` : the entities of rows, up to the first failure.
-/

namespace EntitySql

/-- The outcome of a mapping, and the columns that the rows did not have. -/
structure Mapped (α : Type) where
  result : Except Error α
  absent : List String

variable {α ρ : Type} [DataRow ρ]

namespace EntityType

variable (E : EntityType α)

/-- An object with one column filled from a row, if the row has a value for it. -/
def fill (row : ρ) (a : α) (i : Nat) (column : String) : Except Error α := do
  let v ← DataRow.valueAt row i
  if v.isNull then .ok a else (E.set a column v).mapError (Error.forColumn column)

/-- An object with the given columns filled from a row, one after the other. -/
def fillAll (row : ρ) : List FieldDescriptor → α → Mapped α
  | [], a => ⟨.ok a, []⟩
  | f :: fs, a =>
      match DataRow.ordinal? row f.name with
      | none =>
          let rest := fillAll row fs a
          ⟨rest.result, f.name :: rest.absent⟩
      | some i =>
          match E.fill row a i f.name with
          | .ok a => fillAll row fs a
          | .error e => ⟨.error e, []⟩

/-- The entity of a row. -/
def mapRow (row : ρ) : Mapped α :=
  E.fillAll row E.descriptor.fields E.blank

/-- The entities of rows, up to the first failure. -/
def mapRows : List ρ → Mapped (List α)
  | [] => ⟨.ok [], []⟩
  | row :: rows =>
      let first := E.mapRow row
      match first.result with
      | .error e => ⟨.error e, first.absent⟩
      | .ok a =>
          let rest := mapRows rows
          ⟨rest.result.map (a :: ·), first.absent ++ rest.absent⟩

end EntityType

end EntitySql
