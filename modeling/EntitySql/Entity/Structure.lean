import EntitySql.Entity.Basic

/-!
# Structures as entities

A structure has fields with types.  A mapping connects some of them with columns; the others are
skipped.  Together with a blank structure, a mapping is an entity type.

## Main definitions

* `Slot`, `Object` : a field with its content, and the fields of a structure.
* `Mapping` : a table, and the columns with the fields that they stand for.
* `Mapping.entityType` : the entity type of a mapping.
-/

namespace EntitySql

/-- A field with its content. -/
structure Slot where
  name : String
  type : FieldType
  content : type.Carrier

namespace Slot

/-- A field that has not been set. -/
def blank (name : String) (type : FieldType) : Slot :=
  ⟨name, type, type.blank⟩

/-- The content as a value. -/
def value (s : Slot) : Value :=
  s.type.toValue s.content

/-- The field with the content that a value gives. -/
def assign (s : Slot) (v : Value) : Except ConversionFailure Slot :=
  (s.type.ofValue v).map fun content => ⟨s.name, s.type, content⟩

end Slot

/-- The fields of a structure. -/
abbrev Object : Type :=
  List Slot

namespace Object

/-- The value of a field. -/
def read? (o : Object) (name : String) : Option Value :=
  (o.find? (·.name = name)).map Slot.value

/-- The structure with the content that a value gives to a field.  A name that is no field changes
nothing. -/
def assign (name : String) (v : Value) : Object → Except ConversionFailure Object
  | [] => .ok []
  | s :: rest =>
      if s.name = name then (s.assign v).map (· :: rest)
      else (assign name v rest).map (s :: ·)

end Object

/-- A column and the field that it stands for. -/
structure MappedField where
  field : String
  column : String
  key : Bool
deriving DecidableEq

/-- A table, and its columns with the fields that they stand for. -/
structure Mapping where
  table : String
  fields : List MappedField
deriving DecidableEq

namespace Mapping

variable (m : Mapping)

/-- The descriptor of the table. -/
def descriptor : Descriptor :=
  ⟨m.table, m.fields.map fun f => ⟨f.column, f.key⟩⟩

/-- The field that a column stands for. -/
def fieldOf? (column : String) : Option String :=
  (m.fields.find? (·.column = column)).map (·.field)

/-- The value of a column of a structure. -/
def get? (o : Object) (column : String) : Option Value :=
  (m.fieldOf? column).bind o.read?

/-- A structure with a column set.  A failed conversion names the column. -/
def set (o : Object) (column : String) (v : Value) : Except Error Object :=
  match m.fieldOf? column with
  | none => .ok o
  | some field =>
      match Object.assign field v o with
      | .ok o => .ok o
      | .error failure => .error (.ofFailure column failure)

/-- The entity type of a mapping, with the structure that rows are mapped into. -/
def entityType (blank : Object) : EntityType Object :=
  ⟨m.descriptor, blank, m.get?, m.set⟩

end Mapping

end EntitySql
