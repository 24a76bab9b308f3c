import EntitySql.Error

/-!
# Descriptors of entities

A descriptor says which table an entity lives in and which columns it has.  A usable descriptor
flags exactly one column as the key; descriptors may be written by hand, so this is checked where
the key is needed.

## Main definitions

* `FieldDescriptor`, `Descriptor` : a column, and a table with its columns.
* `Descriptor.keyField` : the key column, or the error that there is none, or more than one.
* `Descriptor.nonKeyFields` : the other columns.
-/

namespace EntitySql

/-- A column of an entity. -/
structure FieldDescriptor where
  /-- The name of the column, which is also the name of its placeholder. -/
  name : String
  key : Bool
deriving DecidableEq

/-- A table and its columns in the order of their declaration. -/
structure Descriptor where
  table : String
  fields : List FieldDescriptor
deriving DecidableEq

namespace Descriptor

variable (d : Descriptor)

/-- The columns that are flagged as the key. -/
def keyFields : List FieldDescriptor :=
  d.fields.filter (·.key)

/-- The columns that are not flagged as the key. -/
def nonKeyFields : List FieldDescriptor :=
  d.fields.filter fun f => !f.key

/-- The key column. -/
def keyField : Except Error FieldDescriptor :=
  match d.keyFields with
  | [] => .error (.missingKey d.table)
  | [key] => .ok key
  | _ => .error (.validation ("entity " ++ d.table ++ " declares more than one key field"))

/-- The first column of a given name. -/
def field? (name : String) : Option FieldDescriptor :=
  d.fields.find? (·.name = name)

theorem keyField_eq_ok_iff {key : FieldDescriptor} :
    d.keyField = .ok key ↔ d.keyFields = [key] := by
  unfold keyField
  split
  · next h => simp [h]
  · next k h => simp [h]
  · next h _ h₁ =>
      constructor
      · intro e
        cases e
      · intro e
        exact absurd e (h₁ key)

theorem mem_fields_of_keyField {key : FieldDescriptor} (h : d.keyField = .ok key) :
    key ∈ d.fields := by
  have hkeys : key ∈ d.keyFields := by
    rw [d.keyField_eq_ok_iff.mp h]
    exact List.mem_cons_self
  exact (List.mem_filter.mp hkeys).1

/-- The other columns and the key are all columns. -/
theorem perm_names_of_keyField {key : FieldDescriptor} (h : d.keyField = .ok key) :
    (d.nonKeyFields.map (·.name) ++ [key.name]).Perm (d.fields.map (·.name)) := by
  have hsplit : (d.keyFields ++ d.nonKeyFields).Perm d.fields :=
    List.filter_append_perm FieldDescriptor.key d.fields
  rw [d.keyField_eq_ok_iff.mp h] at hsplit
  have hall := (List.perm_append_comm.trans hsplit).map (·.name)
  rwa [List.map_append] at hall

end Descriptor

end EntitySql
