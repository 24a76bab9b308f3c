import EntitySql.Proofs.Entity.RoundTrip

/-!
# What declarations say

The attributes of a field are taken together: it is the key or skipped if one of their items says
so, and its column is the last one that they give, or its name. A declaration with such attributes
is accepted exactly if at most one field that is not skipped is the key and no two of them have one
column. It is refused for the first field that repeats a key or a column.

## Main definitions

* `AttributeItem.isKey`, `AttributeItem.isSkip`, `AttributeItem.column?` : what an item of a field
  says.
* `Declaration.mappedFields` : the fields that a declaration maps.
* `IsUnambiguous`, `Repeats` : mapped fields with one key and different columns, and a field that
  repeats one of them.
* `Declares` : what is made of mapped fields.
* `Mapping.IsAccessed`, `Descriptor.IsKeyed` : how a column is read and set, and how the key is told
  from the other columns.

## Main results

* `FieldOptions.readAll_eq_ok_iff` : what the items of a field say together.
* `foldlM_addMapped_eq_iff` : which mapped fields are accepted, and why the others are refused.
* `expand_declared` : which declarations are accepted, and what their mappings are.
-/

namespace EntitySql

/-! ### Attributes of fields -/

namespace AttributeItem

/-- Whether an item makes its field the key. -/
def isKey : AttributeItem → Bool
  | .bare name => nameOf? name = some "key" || nameOf? name = some "id"
  | .assigned _ _ => false

/-- Whether an item skips its field. -/
def isSkip : AttributeItem → Bool
  | .bare name => nameOf? name = some "skip"
  | .assigned _ _ => false

/-- The column that an item gives to its field. -/
def column? : AttributeItem → Option String
  | .bare _ => none
  | .assigned name text => if nameOf? name = some "column" then some text else none

/-- An item that a field may have. -/
def IsOfField (item : AttributeItem) : Prop :=
  item.isKey = true ∨ item.isSkip = true ∨ item.column?.isSome = true

instance (item : AttributeItem) : Decidable item.IsOfField :=
  inferInstanceAs (Decidable (_ ∨ _))

end AttributeItem

namespace FieldOptions

open AttributeItem

variable {o o' : FieldOptions} {item : AttributeItem} {items : List AttributeItem}

/-- An item adds what it says; other items than those of fields are refused. -/
theorem read_eq_ok_iff : o.read item = .ok o' ↔ item.IsOfField ∧
    o' = ⟨o.key || item.isKey, o.skip || item.isSkip, item.column?.or o.column⟩ := by
  rw [eq_comm (a := o')]
  cases item with
  | bare name =>
      rw [read]
      split
      · next h => simp [IsOfField, isKey, isSkip, column?, h]
      · next h => simp [IsOfField, isKey, isSkip, column?, h]
      · next h => simp [IsOfField, isKey, isSkip, column?, h]
      · next hkey hid hskip =>
          simp [IsOfField, isKey, isSkip, column?, eq_false hkey, eq_false hid, eq_false hskip]
  | assigned name text =>
      rw [read]
      split
      · next h => simp [IsOfField, isKey, isSkip, column?, h]
      · next h => simp [IsOfField, isKey, isSkip, column?, eq_false h]

theorem getLast?_filterMap_cons {α β : Type} {f : α → Option β} {x : α} {xs : List α}
    {y : Option β} :
    ((x :: xs).filterMap f).getLast?.or y = (xs.filterMap f).getLast?.or ((f x).or y) := by
  rw [List.filterMap_cons]
  cases f x with
  | none => rfl
  | some b =>
      rw [List.getLast?_cons]
      cases (xs.filterMap f).getLast? <;> rfl

/-- The items of a field say together what any of them says; the last column counts. -/
theorem readAll_eq_ok_iff : o.readAll items = .ok o' ↔ (∀ item ∈ items, item.IsOfField) ∧
    o' = ⟨o.key || items.any (·.isKey), o.skip || items.any (·.isSkip),
      (items.filterMap (·.column?)).getLast?.or o.column⟩ := by
  induction items generalizing o with
  | nil => simp [readAll, eq_comm]
  | cons item items ih =>
      rw [readAll, bind_eq_ok_iff, List.forall_mem_cons, getLast?_filterMap_cons]
      simp only [read_eq_ok_iff, ih, List.any_cons, ← Bool.or_assoc]
      constructor
      · rintro ⟨_, ⟨hitem, rfl⟩, hitems, rfl⟩
        exact ⟨⟨hitem, hitems⟩, rfl⟩
      · rintro ⟨⟨hitem, hitems⟩, rfl⟩
        exact ⟨_, ⟨hitem, rfl⟩, hitems, rfl⟩

end FieldOptions

/-! ### Declared fields -/

namespace FieldDeclaration

variable (f : FieldDeclaration)

/-- The items of all attributes of a field. -/
def items : List AttributeItem :=
  mappingItems f.attributes

/-- Whether a field is skipped. -/
def isSkipped : Bool :=
  f.items.any (·.isSkip)

/-- The column of a field: the last one that is given, or the name of the field. -/
def column : String :=
  (f.items.filterMap (·.column?)).getLast?.getD f.name

/-- A field as it is mapped. -/
def declared : MappedField :=
  ⟨f.name, f.column, f.items.any (·.isKey)⟩

variable {f}

theorem fieldOptions_eq_ok_iff {o : FieldOptions} : fieldOptions f.attributes = .ok o ↔
    (∀ item ∈ f.items, item.IsOfField) ∧
      o = ⟨f.items.any (·.isKey), f.isSkipped, (f.items.filterMap (·.column?)).getLast?⟩ := by
  rw [fieldOptions, FieldOptions.readAll_eq_ok_iff, Option.or_none]
  rfl

theorem mapped?_eq (h : ∀ item ∈ f.items, item.IsOfField) :
    f.mapped? = .ok (if f.isSkipped then none else some f.declared) := by
  rw [mapped?, fieldOptions_eq_ok_iff.mpr ⟨h, rfl⟩]
  rfl

end FieldDeclaration

/-- The fields that a declaration maps: all that it does not skip, in their order. -/
def Declaration.mappedFields (d : Declaration) : List MappedField :=
  (d.fields.filter fun f => !f.isSkipped).map (·.declared)

/-- Fields are mapped one after the other. -/
theorem mapFields_eq_foldlM {fs : List FieldDeclaration} {mapped : List MappedField}
    (h : ∀ f ∈ fs, ∀ item ∈ f.items, item.IsOfField) : mapFields mapped fs =
      ((fs.filter fun f => !f.isSkipped).map (·.declared)).foldlM addMapped mapped := by
  induction fs generalizing mapped with
  | nil => rfl
  | cons f fs ih =>
      rw [List.forall_mem_cons] at h
      rw [mapFields, FieldDeclaration.mapped?_eq h.1]
      cases hskip : f.isSkipped with
      | true =>
          rw [List.filter_cons_of_neg (by simp [hskip])]
          exact ih h.2
      | false =>
          rw [List.filter_cons_of_pos (by simp [hskip]), List.map_cons, List.foldlM_cons]
          exact congrArg (addMapped mapped f.declared >>= ·) (funext fun _ => ih h.2)

/-! ### Keys and columns -/

/-- At most one field is the key, and no two have one column. -/
structure IsUnambiguous (fs : List MappedField) : Prop where
  keys : (fs.filter (·.key)).length ≤ 1
  columns : (fs.map (·.column)).Nodup

/-- A second key after the fields before it. -/
def IsSecondKey (before : List MappedField) (m : MappedField) : Prop :=
  m.key = true ∧ ∃ f ∈ before, f.key = true

/-- A column that one of the fields before it has. -/
def IsRepeatedColumn (before : List MappedField) (column : String) : Prop :=
  ∃ f ∈ before, f.column = column

/-- A field repeats one of those before it: it is a second key, or else it repeats a column. -/
inductive Repeats (before : List MappedField) (m : MappedField) : DeclarationError → Prop where
  | key (h : IsSecondKey before m) : Repeats before m .secondKey
  | column (hkey : ¬ IsSecondKey before m) (h : IsRepeatedColumn before m.column) :
      Repeats before m (.repeatedColumn m.column)

/-- What is made of mapped fields: they are accepted, or refused for the first one that repeats a
key or a column. -/
inductive Declares (fs : List MappedField) : Except DeclarationError (List MappedField) → Prop where
  | accepted (h : IsUnambiguous fs) : Declares fs (.ok fs)
  | refused {before after : List MappedField} {m : MappedField} {e : DeclarationError}
      (hfs : fs = before ++ m :: after) (hbefore : IsUnambiguous before) (h : Repeats before m e) :
      Declares fs (.error e)

section Fields

variable {before after fs : List MappedField} {m : MappedField} {e : DeclarationError}

theorem isUnambiguous_nil : IsUnambiguous [] :=
  ⟨Nat.zero_le 1, List.nodup_nil⟩

theorem IsUnambiguous.of_append (h : IsUnambiguous (before ++ after)) : IsUnambiguous before := by
  obtain ⟨hkeys, hcolumns⟩ := h
  rw [List.filter_append, List.length_append] at hkeys
  rw [List.map_append] at hcolumns
  exact ⟨Nat.le_of_add_right_le hkeys, hcolumns.of_append_left⟩

/-- A field can be added if it repeats nothing. -/
theorem isUnambiguous_append_iff (h : IsUnambiguous before) : IsUnambiguous (before ++ [m]) ↔
    ¬ IsSecondKey before m ∧ ¬ IsRepeatedColumn before m.column := by
  have hcolumns : ((before ++ [m]).map (·.column)).Nodup ↔ ¬ IsRepeatedColumn before m.column := by
    simp [List.nodup_append, h.columns, IsRepeatedColumn]
  have hkeys : ((before ++ [m]).filter (·.key)).length ≤ 1 ↔ ¬ IsSecondKey before m := by
    rw [List.filter_append, List.length_append, IsSecondKey]
    cases hm : m.key with
    | false => simpa [hm] using h.keys
    | true => simp [hm, List.filter_eq_nil_iff]
  exact ⟨fun h' => ⟨hkeys.mp h'.keys, hcolumns.mp h'.columns⟩,
    fun h' => ⟨hkeys.mpr h'.1, hcolumns.mpr h'.2⟩⟩

theorem isSecondKey_iff : (m.key && before.any (·.key)) = true ↔ IsSecondKey before m := by
  simp [IsSecondKey]

theorem isRepeatedColumn_iff {column : String} :
    before.any (·.column = column) = true ↔ IsRepeatedColumn before column := by
  simp [IsRepeatedColumn]

theorem addMapped_of_isUnambiguous (h : IsUnambiguous (before ++ [m])) :
    addMapped before m = .ok (before ++ [m]) := by
  obtain ⟨hkey, hcolumn⟩ := (isUnambiguous_append_iff h.of_append).mp h
  rw [addMapped, if_neg (mt isSecondKey_iff.mp hkey), if_neg (mt isRepeatedColumn_iff.mp hcolumn)]

theorem addMapped_of_repeats (h : Repeats before m e) : addMapped before m = .error e := by
  cases h with
  | key h => rw [addMapped, if_pos (isSecondKey_iff.mpr h)]
  | column hkey h =>
      rw [addMapped, if_neg (mt isSecondKey_iff.mp hkey), if_pos (isRepeatedColumn_iff.mpr h)]

theorem exists_repeats_iff :
    (∃ e, Repeats before m e) ↔ IsSecondKey before m ∨ IsRepeatedColumn before m.column := by
  constructor
  · rintro ⟨_, h | ⟨-, h⟩⟩
    · exact .inl h
    · exact .inr h
  · intro h
    by_cases hkey : IsSecondKey before m
    · exact ⟨_, .key hkey⟩
    · exact ⟨_, .column hkey (h.resolve_left hkey)⟩

/-- A field can be added, or repeats one of those before it. -/
theorem isUnambiguous_append_iff_not_repeats (h : IsUnambiguous before) :
    IsUnambiguous (before ++ [m]) ↔ ¬ ∃ e, Repeats before m e := by
  rw [isUnambiguous_append_iff h, exists_repeats_iff, not_or]

theorem Repeats.not_isUnambiguous (hbefore : IsUnambiguous before) (h : Repeats before m e) :
    ¬ IsUnambiguous (before ++ m :: after) := by
  intro hall
  rw [List.append_cons] at hall
  exact (isUnambiguous_append_iff_not_repeats hbefore).mp hall.of_append ⟨e, h⟩

/-- Fields that are added one after the other are all accepted, or one of them is refused. -/
theorem declares_foldlM (h : IsUnambiguous before) :
    Declares (before ++ fs) (fs.foldlM addMapped before) := by
  induction fs generalizing before with
  | nil =>
      rw [List.append_nil]
      exact .accepted h
  | cons m fs ih =>
      rw [List.foldlM_cons]
      by_cases hrepeats : ∃ e, Repeats before m e
      · obtain ⟨e, hrepeats⟩ := hrepeats
        rw [addMapped_of_repeats hrepeats]
        exact .refused rfl h hrepeats
      · have hadd := (isUnambiguous_append_iff_not_repeats h).mpr hrepeats
        rw [addMapped_of_isUnambiguous hadd, List.append_cons]
        exact ih hadd

theorem foldlM_of_isUnambiguous (h : IsUnambiguous fs) : fs.foldlM addMapped [] = .ok fs := by
  obtain ⟨result, hresult⟩ : ∃ result, fs.foldlM addMapped [] = result := ⟨_, rfl⟩
  have hdeclares : Declares fs result := hresult ▸ declares_foldlM isUnambiguous_nil
  rw [hresult]
  cases hdeclares with
  | accepted _ => rfl
  | refused hfs hbefore hrepeats => exact absurd (hfs ▸ h) (hrepeats.not_isUnambiguous hbefore)

/-- Mapped fields are accepted exactly if they are unambiguous, and else refused for the first one
that repeats a key or a column. -/
theorem foldlM_addMapped_eq_iff {result : Except DeclarationError (List MappedField)} :
    fs.foldlM addMapped [] = result ↔ Declares fs result := by
  refine ⟨fun h => h ▸ declares_foldlM isUnambiguous_nil, fun h => ?_⟩
  cases h with
  | accepted h => exact foldlM_of_isUnambiguous h
  | @refused before after m e hfs hbefore h =>
      have hstep : (m :: after).foldlM addMapped before = .error e := by
        rw [List.foldlM_cons, addMapped_of_repeats h]
        rfl
      rw [hfs, List.foldlM_append, foldlM_of_isUnambiguous hbefore]
      exact hstep

theorem declares_ok_iff {fs' : List MappedField} :
    Declares fs (.ok fs') ↔ IsUnambiguous fs ∧ fs' = fs := by
  constructor
  · intro h
    cases h with
    | accepted h => exact ⟨h, rfl⟩
  · rintro ⟨h, rfl⟩
    exact .accepted h

theorem declares_error_iff : Declares fs (.error e) ↔
    ∃ before m after, fs = before ++ m :: after ∧ IsUnambiguous before ∧ Repeats before m e := by
  constructor
  · intro h
    cases h with
    | refused hfs hbefore h => exact ⟨_, _, _, hfs, hbefore, h⟩
  · rintro ⟨_, _, _, hfs, hbefore, h⟩
    exact .refused hfs hbefore h

end Fields

/-! ### Columns -/

/-- How a column is read and set: it has the content of its field as a value. A value that converts
to the type of the field sets the content of that field and of no other one, and any other value
fails with the name of the column. -/
structure Mapping.IsAccessed (m : Mapping) (f : MappedField) (o : Object) (s : Slot) : Prop where
  slot : o.slot? f.field = some s
  get : m.get? o f.column = some (s.type.toValue s.content)
  set : ∀ v content, s.type.ofValue v = .ok content →
    ∃ o', m.set o f.column v = .ok o' ∧ o'.shape = o.shape ∧ ∀ name,
      o'.slot? name = if name = f.field then some ⟨s.name, s.type, content⟩ else o.slot? name
  refused : ∀ v failure, s.type.ofValue v = .error failure →
    m.set o f.column v = .error (.conversion f.column failure.message)

/-- How the key is told from the other columns: there is one, or none, and with the others it makes
up all columns. -/
inductive Descriptor.IsKeyed (d : Descriptor) : Prop where
  | keyed {key : FieldDescriptor} (hkey : d.keyField = .ok key)
      (hall : (d.nonKeyFields.map (·.name) ++ [key.name]).Perm (d.fields.map (·.name))) : IsKeyed d
  | keyless (hkey : d.keyField = .error (.missingKey d.table)) (hall : d.nonKeyFields = d.fields) :
      IsKeyed d

section Columns

variable {m : Mapping} {f : MappedField} {o : Object} {s : Slot} {column : String}

theorem Object.assign_eq_error {name : String} {v : Value} {failure : ConversionFailure}
    (h : o.slot? name = some s) (hassign : s.assign v = .error failure) :
    assign name v o = .error failure := by
  induction o with
  | nil => cases h
  | cons t rest ih =>
      rw [slot?, List.find?_cons] at h
      rw [assign]
      by_cases ht : t.name = name
      · rw [decide_eq_true ht] at h
        cases h
        rw [if_pos ht, hassign]
        rfl
      · rw [decide_eq_false ht] at h
        rw [if_neg ht, ih h]
        rfl

theorem Mapping.fieldOf?_eq_none_iff : m.fieldOf? column = none ↔ column ∉ m.columns := by
  simp [fieldOf?, columns]

theorem Mapping.isAccessed (hcolumns : m.columns.Nodup) (hf : f ∈ m.fields)
    (hs : o.slot? f.field = some s) : m.IsAccessed f o s := by
  have hfield := fieldOf?_column hcolumns hf
  refine ⟨hs, get?_column hcolumns hf hs, fun v content hcontent => ?_, fun v failure hfails => ?_⟩
  · have hassign : s.assign v = .ok ⟨s.name, s.type, content⟩ :=
      map_eq_ok_iff.mpr ⟨content, hcontent, rfl⟩
    obtain ⟨o', ho', hrest⟩ := Object.assign_eq_ok hs hassign
    exact ⟨o', by rw [Mapping.set, hfield]; simp only [ho'], hrest⟩
  · have hassign : s.assign v = .error failure := map_eq_error_iff.mpr hfails
    rw [Mapping.set, hfield]
    simp only [Object.assign_eq_error hs hassign]
    rfl

/-- A structure with the declared fields has values for the columns and for nothing else. -/
theorem Mapping.exists_get?_iff (h : IsMappingOf (o.map (·.name)) m.fields) :
    (∃ v, m.get? o column = some v) ↔ column ∈ m.columns := by
  refine ⟨?_, exists_get?_eq_some h⟩
  rintro ⟨v, hv⟩
  by_contra hcolumn
  rw [get?, fieldOf?_eq_none_iff.mpr hcolumn] at hv
  cases hv

theorem Mapping.set_of_not_mem (h : column ∉ m.columns) (v : Value) :
    m.set o column v = .ok o := by
  rw [Mapping.set, fieldOf?_eq_none_iff.mpr h]

theorem Mapping.keyFields_descriptor (m : Mapping) :
    m.descriptor.keyFields = (m.fields.filter (·.key)).map fun f => ⟨f.column, f.key⟩ := by
  rw [Descriptor.keyFields, descriptor, List.filter_map]
  rfl

theorem Descriptor.isKeyed {d : Descriptor} (h : d.keyFields.length ≤ 1) : d.IsKeyed := by
  cases hkeys : d.keyFields with
  | nil =>
      refine .keyless (by rw [keyField, hkeys]) ?_
      simpa [keyFields, nonKeyFields] using hkeys
  | cons key rest =>
      rw [hkeys] at h
      obtain rfl : rest = [] := by simpa using h
      have hkey := d.keyField_eq_ok_iff.mpr hkeys
      exact .keyed hkey (d.perm_names_of_keyField hkey)

end Columns

/-! ### Declarations -/

section Declarations

variable {d : Declaration} {o : EntityOptions}

/-- The mapping of a declaration whose attributes are well-formed. -/
theorem expand_eq_map (hkind : d.kind = .struct) (hnamed : d.isNamed = true)
    (hoptions : entityOptions d.attributes = .ok o)
    (hitems : ∀ f ∈ d.fields, ∀ item ∈ f.items, item.IsOfField) :
    d.expand = (d.mappedFields.foldlM addMapped []).map fun fs =>
      ⟨⟨o.table.getD d.name, fs⟩, o.factory.filter (· ≠ defaultFactory)⟩ := by
  rw [Declaration.expand, hnamed, hkind, hoptions, Declaration.mappedFields,
    ← mapFields_eq_foldlM hitems]
  rfl

/-- The fields of a mapping have attributes that are well-formed. -/
theorem isOfField_of_mapFields {fs : List FieldDeclaration} {mapped mapped' : List MappedField}
    (h : mapFields mapped fs = .ok mapped') : ∀ f ∈ fs, ∀ item ∈ f.items, item.IsOfField := by
  induction fs generalizing mapped with
  | nil => exact fun f hf => nomatch hf
  | cons f fs ih =>
      obtain ⟨m?, hm, h⟩ := bind_eq_ok_iff.mp h
      obtain ⟨o, ho, -⟩ := bind_eq_ok_iff.mp hm
      refine List.forall_mem_cons.mpr ⟨(FieldDeclaration.fieldOptions_eq_ok_iff.mp ho).1, ?_⟩
      cases m? with
      | none => exact ih h
      | some m =>
          obtain ⟨added, -, h⟩ := bind_eq_ok_iff.mp h
          exact ih h

/-- Only structures with names and well-formed attributes are accepted. -/
theorem exists_options_of_expand {x : Expansion} (hd : d.expand = .ok x) :
    ∃ o, d.kind = .struct ∧ d.isNamed = true ∧ entityOptions d.attributes = .ok o ∧
      ∀ f ∈ d.fields, ∀ item ∈ f.items, item.IsOfField := by
  unfold Declaration.expand at hd
  split at hd
  · cases hd
  · next hnamed =>
      split at hd <;> try cases hd
      next hkind =>
        obtain ⟨o, ho, hd⟩ := bind_eq_ok_iff.mp hd
        obtain ⟨mapped, hmapped, -⟩ := bind_eq_ok_iff.mp hd
        exact ⟨o, hkind, by simpa using hnamed, ho, isOfField_of_mapFields hmapped⟩

/-- The mapping of an accepted declaration has all fields that it does not skip. -/
theorem fields_of_expand {x : Expansion} (hd : d.expand = .ok x) :
    x.mapping.fields = d.mappedFields := by
  obtain ⟨o, hkind, hnamed, ho, hitems⟩ := exists_options_of_expand hd
  rw [expand_eq_map hkind hnamed ho hitems] at hd
  obtain ⟨fs, hfs, rfl⟩ := map_eq_ok_iff.mp hd
  exact (declares_ok_iff.mp (foldlM_addMapped_eq_iff.mp hfs)).2

theorem isName_of_expand {x : Expansion} (hd : d.expand = .ok x) :
    ∀ f ∈ d.fields, isName f.name = true := by
  obtain ⟨o, hkind, hnamed, -, -⟩ := exists_options_of_expand hd
  have hfields := (Bool.and_eq_true _ _ ▸ hnamed).2
  simpa [hkind] using hfields

/-- A declaration whose attributes are well-formed is accepted exactly if at most one field that it
maps is the key and no two have one column; and else it is refused for the first field that repeats
a key or a column. Its columns are those of the fields that it does not skip, in their order. Each
of them is read from its field and set in it, and names that are no columns have no value and set
nothing. There is at most one key, and with the other columns it makes up all columns. -/
theorem expand_declared (hkind : d.kind = .struct) (hnamed : d.isNamed = true)
    (hoptions : entityOptions d.attributes = .ok o)
    (hitems : ∀ f ∈ d.fields, ∀ item ∈ f.items, item.IsOfField) :
    let fs := d.mappedFields
    ((∃ x, d.expand = .ok x) ↔ IsUnambiguous fs) ∧
    (∀ e, d.expand = .error e ↔ ∃ before m after, fs = before ++ m :: after ∧
      IsUnambiguous before ∧ Repeats before m e) ∧
    ∀ x, d.expand = .ok x → x.mapping = ⟨o.table.getD d.name, fs⟩ ∧
      x.mapping.descriptor.fields = fs.map (fun f => ⟨f.column, f.key⟩) ∧
      (x.mapping.descriptor.fields.map (·.name)).Nodup ∧ x.mapping.descriptor.IsKeyed ∧
      ∀ a : Object, a.map (·.name) = d.fields.map (·.name) →
        (∀ column, (∃ v, x.mapping.get? a column = some v) ↔ column ∈ fs.map (·.column)) ∧
        (∀ column ∉ fs.map (·.column), ∀ v, x.mapping.set a column v = .ok a) ∧
        ∀ f ∈ fs, ∃ s, x.mapping.IsAccessed f a s := by
  intro fs
  have hexpand := expand_eq_map hkind hnamed hoptions hitems
  have hdeclares (result) : fs.foldlM addMapped [] = result ↔ Declares fs result :=
    foldlM_addMapped_eq_iff
  refine ⟨?_, fun e => ?_, fun x hx => ?_⟩
  · rw [hexpand]
    constructor
    · rintro ⟨x, hx⟩
      obtain ⟨fs', hfs', -⟩ := map_eq_ok_iff.mp hx
      exact (declares_ok_iff.mp ((hdeclares _).mp hfs')).1
    · intro h
      exact ⟨_, map_eq_ok_iff.mpr ⟨fs, (hdeclares _).mpr (.accepted h), rfl⟩⟩
  · rw [hexpand, map_eq_error_iff, hdeclares, declares_error_iff]
  · have hmapping := isMappingOf_expand hx
    rw [hexpand] at hx
    obtain ⟨fs', hfs', rfl⟩ := map_eq_ok_iff.mp hx
    obtain ⟨hunambiguous, rfl⟩ := declares_ok_iff.mp ((hdeclares _).mp hfs')
    refine ⟨rfl, rfl, ?_, ?_, fun a ha => ?_⟩
    · rw [Mapping.map_name_descriptor]
      exact hunambiguous.columns
    · refine Descriptor.isKeyed ?_
      rw [Mapping.keyFields_descriptor, List.length_map]
      exact hunambiguous.keys
    · rw [← ha] at hmapping
      refine ⟨fun column => Mapping.exists_get?_iff hmapping,
        fun column hcolumn v => Mapping.set_of_not_mem hcolumn v, fun f hf => ?_⟩
      obtain ⟨s, hs⟩ := Object.exists_slot? (hmapping.fields.subset (List.mem_map_of_mem hf))
      exact ⟨s, Mapping.isAccessed hmapping.columns hf hs⟩

/-- A declaration with several attributes on one field, and a skipped field that has a key and a
column in common with another one. -/
def accountDeclaration : Declaration :=
  ⟨.struct, "Account", [.mapping [.assigned "table" "accounts"]],
    [⟨"number", [.mapping [.bare "key", .assigned "column" "id"], .foreign "doc",
        .mapping [.assigned "column" "no"], .mapping [.bare "id"]]⟩,
      ⟨"cache", [.mapping [.bare "key"], .mapping [.assigned "column" "no", .bare "skip"]]⟩,
      ⟨"owner", []⟩]⟩

theorem expand_declared_account :
    accountDeclaration.mappedFields = [⟨"number", "no", true⟩, ⟨"owner", "owner", false⟩] ∧
    ∃ x, accountDeclaration.expand = .ok x ∧
      x.mapping = ⟨"accounts", accountDeclaration.mappedFields⟩ ∧ x.mapping.descriptor.IsKeyed ∧
      ∀ f ∈ accountDeclaration.mappedFields, ∃ s, x.mapping.IsAccessed f
        [⟨"number", .text, "7"⟩, ⟨"cache", .bool, true⟩, ⟨"owner", .text, "O'Neil"⟩] s := by
  have hfields :
      accountDeclaration.mappedFields = [⟨"number", "no", true⟩, ⟨"owner", "owner", false⟩] := by
    decide +kernel
  obtain ⟨haccepted, -, hmapping⟩ := expand_declared (d := accountDeclaration)
    (o := ⟨some "accounts", none⟩) rfl (by decide +kernel) (by decide +kernel) (by decide +kernel)
  have hunambiguous : IsUnambiguous accountDeclaration.mappedFields := by
    rw [hfields]
    exact ⟨by decide, by decide⟩
  obtain ⟨x, hx⟩ := haccepted.mpr hunambiguous
  obtain ⟨hx', -, -, hkeyed, haccess⟩ := hmapping x hx
  exact ⟨hfields, x, hx, hx', hkeyed, (haccess _ rfl).2.2⟩

end Declarations

end EntitySql
