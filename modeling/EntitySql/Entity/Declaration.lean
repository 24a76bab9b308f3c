import EntitySql.Entity.Structure
import EntitySql.Source.Grammar

/-!
# Declarations of entities

A structure is declared as an entity by attributes: on the structure the name of the table and the
function that makes a blank one, on a field whether it is the key, its column, or that it is
skipped.  The declaration is turned into a mapping, or refused.

## Main definitions

* `AttributeItem`, `Attribute`, `Declaration` : what is declared.
* `DeclarationError` : why a declaration is refused, with its message.
* `Declaration.expand` : the mapping of a declaration.
-/

namespace EntitySql

/-- An item of an attribute: a bare name, or a name with a text. -/
inductive AttributeItem where
  | bare (name : String)
  | assigned (name text : String)
deriving DecidableEq

/-- An attribute.  Those that do not belong to the mapping are ignored. -/
inductive Attribute where
  | mapping (items : List AttributeItem)
  | foreign (text : String)
deriving DecidableEq

/-- A declared field. -/
structure FieldDeclaration where
  name : String
  attributes : List Attribute
deriving DecidableEq

/-- What is declared. -/
inductive DeclarationKind where
  /-- A structure with named fields. -/
  | struct
  /-- A structure with numbered fields. -/
  | tuple
  /-- A structure without fields. -/
  | unit
  | enum
  | union
deriving DecidableEq

/-- A declaration with its attributes and fields. -/
structure Declaration where
  kind : DeclarationKind
  name : String
  attributes : List Attribute
  fields : List FieldDeclaration
deriving DecidableEq

/-- Why a declaration is refused. -/
inductive DeclarationError where
  | notStruct
  | noNamedFields
  | unknownEntityItem
  | unknownFieldItem
  | secondKey
  | repeatedColumn (column : String)
  /-- An attribute that does not follow its grammar. -/
  | malformed
deriving DecidableEq

/-- The wording of a refusal. -/
def DeclarationError.message : DeclarationError → String
  | notStruct => "Entity can only be derived for structs"
  | noNamedFields => "Entity can only be derived for structs with named fields"
  | unknownEntityItem => "unknown entity attribute; expected `table` or `factory`"
  | unknownFieldItem => "unknown field attribute; expected `key`, `column` or `skip`"
  | secondKey => "Entity supports a single key field"
  | repeatedColumn column => "column `" ++ column ++ "` is mapped twice"
  | malformed => "malformed attribute"

/-! ### Names -/

/-- The name that a text holds, if it holds a name and nothing else. -/
def nameOf? (text : String) : Option String :=
  match Source.tokens? text with
  | some [.word w] => if Source.isIdentifier w then some w else none
  | _ => none

/-- Whether a text is a name. -/
def isName (text : String) : Bool :=
  nameOf? text = some text

/-- The name at the start of a text, if there is one. -/
def leadingName? (text : String) : Option String :=
  match Source.tokens? text with
  | some (.word w :: _) => if Source.isIdentifier w then some w else none
  | _ => none

/-! ### Attributes -/

/-- The items of the attributes that belong to the mapping. -/
def mappingItems (attributes : List Attribute) : List AttributeItem :=
  attributes.flatMap fun
    | .mapping items => items
    | .foreign _ => []

/-- What the attributes of a structure say. -/
structure EntityOptions where
  table : Option String
  factory : Option String
deriving DecidableEq

/-- The options after one more item.  Every item of a structure has a text. -/
def EntityOptions.read (o : EntityOptions) : AttributeItem → Except DeclarationError EntityOptions
  | .bare _ => .error .malformed
  | .assigned name text =>
      match nameOf? name with
      | some "table" => .ok { o with table := some text }
      | some "factory" =>
          match Source.wholePath? text with
          | some path => .ok { o with factory := some path }
          | none => .error .malformed
      | some _ => .error .unknownEntityItem
      | none => .error .malformed

/-- What the attributes of a field say. -/
structure FieldOptions where
  key : Bool
  skip : Bool
  column : Option String
deriving DecidableEq

/-- The names of the items of a field. -/
def fieldItemNames : List String :=
  ["key", "id", "skip", "column"]

/-- The options after one more item.  Only the column has a text. -/
def FieldOptions.read (o : FieldOptions) (item : AttributeItem) :
    Except DeclarationError FieldOptions :=
  match item with
  | .bare name =>
      match nameOf? name with
      | some "key" | some "id" => .ok { o with key := true }
      | some "skip" => .ok { o with skip := true }
      | _ => .error (refusal name)
  | .assigned name text =>
      match nameOf? name with
      | some "column" => .ok { o with column := some text }
      | _ => .error (refusal name)
where
  /-- Why an item is refused that starts with a name: the name is unknown, or what follows it is
  wrong. -/
  refusal (name : String) : DeclarationError :=
    match leadingName? name with
    | some w => if fieldItemNames.contains w then .malformed else .unknownFieldItem
    | none => .malformed

/-- The options of a list of items, the later ones after the earlier ones. -/
def EntityOptions.readAll :
    EntityOptions → List AttributeItem → Except DeclarationError EntityOptions
  | o, [] => .ok o
  | o, item :: items => do
      let o ← o.read item
      readAll o items

/-- The options of a list of items, the later ones after the earlier ones. -/
def FieldOptions.readAll :
    FieldOptions → List AttributeItem → Except DeclarationError FieldOptions
  | o, [] => .ok o
  | o, item :: items => do
      let o ← o.read item
      readAll o items

/-- What the attributes of a structure say. -/
def entityOptions (attributes : List Attribute) : Except DeclarationError EntityOptions :=
  EntityOptions.readAll ⟨none, none⟩ (mappingItems attributes)

/-- What the attributes of a field say. -/
def fieldOptions (attributes : List Attribute) : Except DeclarationError FieldOptions :=
  FieldOptions.readAll ⟨false, false, none⟩ (mappingItems attributes)

/-! ### Mappings -/

/-- The mapping of a declared field, if it is not skipped. -/
def FieldDeclaration.mapped? (f : FieldDeclaration) :
    Except DeclarationError (Option MappedField) := do
  let o ← fieldOptions f.attributes
  .ok (if o.skip then none else some ⟨f.name, o.column.getD f.name, o.key⟩)

/-- The fields mapped so far with one more, which must neither be a second key nor repeat a
column. -/
def addMapped (mapped : List MappedField) (f : MappedField) :
    Except DeclarationError (List MappedField) :=
  if f.key && mapped.any (·.key) then .error .secondKey
  else if mapped.any (·.column = f.column) then .error (.repeatedColumn f.column)
  else .ok (mapped ++ [f])

/-- The fields mapped so far with those of further declared fields. -/
def mapFields :
    List MappedField → List FieldDeclaration → Except DeclarationError (List MappedField)
  | mapped, [] => .ok mapped
  | mapped, f :: fs => do
      match ← f.mapped? with
      | none => mapFields mapped fs
      | some m =>
          let mapped ← addMapped mapped m
          mapFields mapped fs

/-- The mapping of a declaration, and the path of the function that makes a blank structure. -/
structure Expansion where
  mapping : Mapping
  factory : Option String
deriving DecidableEq

/-- The function that makes a blank structure if no other one is given. -/
def defaultFactory : String :=
  "::core::default::Default::default"

/-- Whether the names of a declaration are names. -/
def Declaration.isNamed (d : Declaration) : Bool :=
  isName d.name && (d.kind != .struct || d.fields.all fun f => isName f.name)

/-- The mapping of a declaration.  Names are checked first, then the kind, then the attributes of
the structure, then the fields in their order. -/
def Declaration.expand (d : Declaration) : Except DeclarationError Expansion :=
  if !d.isNamed then .error .malformed
  else
    match d.kind with
    | .enum | .union => .error .notStruct
    | .tuple | .unit => .error .noNamedFields
    | .struct => do
        let o ← entityOptions d.attributes
        let mapped ← mapFields [] d.fields
        let factory := o.factory.filter (· ≠ defaultFactory)
        .ok ⟨⟨o.table.getD d.name, mapped⟩, factory⟩

end EntitySql
