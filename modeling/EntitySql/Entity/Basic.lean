import EntitySql.Entity.Descriptor

/-!
# Entity types

An entity type tells how the objects of a type are read and filled by the names of columns.

## Main definitions

* `EntityType` : a descriptor with a blank object and the access to columns.
* `EntityType.view` : the values of an object under the columns of the descriptor.
-/

namespace EntitySql

/-- How objects of a type are read and filled. -/
structure EntityType (α : Type) where
  descriptor : Descriptor
  /-- The object that rows are mapped into. -/
  blank : α
  /-- The value of a column; none for a name that is no column. -/
  get? : α → String → Option Value
  /-- An object with a column set; a name that is no column is ignored. -/
  set : α → String → Value → Except Error α

/-- The values of an object under the columns of the descriptor. -/
def EntityType.view {α : Type} (E : EntityType α) (a : α) : List (String × Option Value) :=
  E.descriptor.fields.map fun f => (f.name, E.get? a f.name)

end EntitySql
