import Mathlib.Data.List.Nodup
import EntitySql.Proofs.Entity.Expansion
import EntitySql.Proofs.Row.Lookup
import EntitySql.Proofs.Value.RoundTrip
import EntitySql.Row.Mapping

/-!
# Entities written out as rows

A structure is written out as a row with a column for each mapped field. A blank structure that is
filled from such a row agrees with the first one in the mapped fields, and its skipped fields stay
as they were. The row may have its columns in any order and in any case, and others among them.

## Main definitions

* `IsRowOf` : the rows that an object is written out as.
* `Object.shape` : the fields of a structure with their types.
* `IsFilled` : a structure in which some fields have been filled from another one.

## Main results

* `IsRowOf.exists_valueAt` : a written row has the value of each column.
* `IsFilled.assign`, `IsFilled.skip` : one more field is filled, and the others are kept.
* `IsRestorable.fillAll` : all mapped fields are filled from a row.
* `mapRow_isRowOf` : what a written row is mapped to.
-/

namespace EntitySql

/-! ### Written rows -/

/-- A row in which each column of an object stands once, spelled in some case and with its value,
among others that have none of these names. -/
def IsRowOf {α : Type} (E : EntityType α) (a : α) (r : Record) : Prop :=
  ∃ (spelling : String → String) (extras : List (String × Value)),
    (∀ name, sameFolded (spelling name) name = true) ∧
    (∀ cell ∈ extras, ∀ f ∈ E.descriptor.fields, sameFolded cell.1 f.name = false) ∧
    r.cells.Perm
      ((E.descriptor.fields.map fun f => (spelling f.name, (E.get? a f.name).getD .null)) ++ extras)

/-- No two names are equal but for their case. -/
def AreDistinctFolded (names : List String) : Prop :=
  (names.map fun name => name.toList.map Char.toLower).Nodup

instance (names : List String) : Decidable (AreDistinctFolded names) :=
  inferInstanceAs (Decidable (List.Nodup _))

theorem AreDistinctFolded.eq_of_sameFolded {names : List String} (h : AreDistinctFolded names)
    {a b : String} (ha : a ∈ names) (hb : b ∈ names) (hab : sameFolded a b = true) : a = b :=
  List.inj_on_of_nodup_map h ha hb (sameFolded_iff.mp hab)

/-- A written row has the value of each column at the place where the column is found. -/
theorem IsRowOf.exists_valueAt {α : Type} {E : EntityType α} {a : α} {r : Record}
    (h : IsRowOf E a r) (hdistinct : AreDistinctFolded (E.descriptor.fields.map (·.name)))
    {f : FieldDescriptor} (hf : f ∈ E.descriptor.fields) :
    ∃ i, DataRow.ordinal? r f.name = some i ∧
      DataRow.valueAt r i = .ok ((E.get? a f.name).getD .null) := by
  obtain ⟨spelling, extras, hspelling, hextras, hcells⟩ := h
  refine Record.exists_valueAt ⟨(spelling f.name, (E.get? a f.name).getD .null), ?_, hspelling _⟩ ?_
  · rw [hcells.mem_iff]
    exact List.mem_append_left _ (List.mem_map_of_mem hf)
  · intro cell hcell hname
    rcases List.mem_append.mp (hcells.mem_iff.mp hcell) with hcell | hcell
    · obtain ⟨g, hg, rfl⟩ := List.mem_map.mp hcell
      have hgf : g.name = f.name := hdistinct.eq_of_sameFolded (List.mem_map_of_mem hg)
        (List.mem_map_of_mem hf) (sameFolded_trans (sameFolded_symm (hspelling g.name)) hname)
      rw [hgf]
    · rw [hextras cell hcell f hf] at hname
      cases hname

/-! ### Fields of structures -/

theorem Slot.assign_value {s c : Slot} (hname : c.name = s.name) (htype : c.type = s.type)
    (hs : s.type.IsFaithful) : c.assign s.value = .ok s := by
  obtain ⟨name, type, content⟩ := s
  obtain ⟨name', type', content'⟩ := c
  obtain rfl : name' = name := hname
  obtain rfl : type' = type := htype
  simp only [assign, value, FieldType.ofValue_toValue hs]
  rfl

theorem Slot.eq_of_value_eq {s c : Slot} (hname : c.name = s.name) (htype : c.type = s.type)
    (hs : s.type.IsFaithful) (hvalue : c.value = s.value) : c = s := by
  have hc : c.assign c.value = .ok c := assign_value rfl rfl (htype ▸ hs)
  rw [hvalue, assign_value hname htype hs] at hc
  exact (Except.ok.inj hc).symm

theorem Slot.name_type_of_assign {s s' : Slot} {v : Value} (h : s.assign v = .ok s') :
    s'.name = s.name ∧ s'.type = s.type := by
  obtain ⟨content, -, rfl⟩ := map_eq_ok_iff.mp h
  exact ⟨rfl, rfl⟩

namespace Object

variable {name : String} {v : Value} {s s' : Slot}

/-- A field of a structure. -/
def slot? (o : Object) (name : String) : Option Slot :=
  o.find? (·.name = name)

/-- The fields of a structure with their types. -/
def shape (o : Object) : List (String × FieldType) :=
  o.map fun s => (s.name, s.type)

theorem name_of_slot? {o : Object} (h : o.slot? name = some s) : s.name = name := by
  simpa using List.find?_some h

theorem mem_of_slot? {o : Object} (h : o.slot? name = some s) : s ∈ o :=
  List.mem_of_find?_eq_some h

/-- Structures with the same fields have fields of the same type under each name. -/
theorem exists_slot?_of_shape_eq {o o' : Object} (h : o.shape = o'.shape)
    (hs : o.slot? name = some s) :
    ∃ c, o'.slot? name = some c ∧ c.name = s.name ∧ c.type = s.type := by
  have hslot (o : Object) : (o.slot? name).map (fun s => (s.name, s.type)) =
      o.shape.find? (·.1 = name) := by
    rw [slot?, shape, List.find?_map]
    rfl
  have hmap := hslot o
  rw [h, ← hslot o', hs, Option.map_some] at hmap
  obtain ⟨c, hc, hpair⟩ := Option.map_eq_some_iff.mp hmap.symm
  exact ⟨c, hc, (Prod.mk.inj hpair).1, (Prod.mk.inj hpair).2⟩

theorem exists_slot? {o : Object} (h : name ∈ o.map (·.name)) : ∃ s, o.slot? name = some s := by
  obtain ⟨s, hs, hname⟩ := List.mem_map.mp h
  exact Option.isSome_iff_exists.mp (List.find?_isSome.mpr ⟨s, hs, by simpa using hname⟩)

/-- Setting a field sets the first one of its name and keeps all others. -/
theorem assign_eq_ok {o : Object} (h : o.slot? name = some s) (hassign : s.assign v = .ok s') :
    ∃ o', assign name v o = .ok o' ∧ o'.shape = o.shape ∧
      ∀ other, o'.slot? other = if other = name then some s' else o.slot? other := by
  induction o with
  | nil => cases h
  | cons t rest ih =>
      rw [slot?, List.find?_cons] at h
      by_cases ht : t.name = name
      · rw [decide_eq_true ht] at h
        cases h
        obtain ⟨hname, htype⟩ := Slot.name_type_of_assign hassign
        refine ⟨s' :: rest, by rw [assign, if_pos ht, hassign]; rfl, ?_, fun other => ?_⟩
        · simp [shape, hname, htype]
        · by_cases hother : other = name
          · simp [slot?, hother, hname, ht]
          · have hne : ¬ name = other := fun h => hother h.symm
            simp [slot?, hother, hname, ht, hne]
      · rw [decide_eq_false ht] at h
        obtain ⟨o', ho', hshape, hslot⟩ := ih h
        refine ⟨t :: o', by rw [assign, if_neg ht, ho']; rfl, ?_, fun other => ?_⟩
        · exact congrArg ((t.name, t.type) :: ·) hshape
        · rw [slot?, List.find?_cons, slot?, List.find?_cons]
          by_cases hother : t.name = other
          · have hne : ¬ other = name := fun h => ht (hother.trans h)
            simp [hother, hne]
          · rw [decide_eq_false hother]
            exact hslot other

end Object

/-! ### Mapped fields -/

namespace Mapping

variable {m : Mapping} {f : MappedField}

/-- A column stands for the field that it was mapped from. -/
theorem fieldOf?_column (hcolumns : m.columns.Nodup) (hf : f ∈ m.fields) :
    m.fieldOf? f.column = some f.field := by
  obtain ⟨g, hg⟩ : ∃ g, m.fields.find? (·.column = f.column) = some g :=
    Option.isSome_iff_exists.mp (List.find?_isSome.mpr ⟨f, hf, by simp⟩)
  have hcolumn : g.column = f.column := by simpa using List.find?_some hg
  have hgf : g = f := List.inj_on_of_nodup_map hcolumns (List.mem_of_find?_eq_some hg) hf hcolumn
  rw [fieldOf?, hg, hgf]
  rfl

theorem get?_eq_bind_slot? (m : Mapping) (o : Object) (column : String) :
    m.get? o column = (m.fieldOf? column).bind fun name => (o.slot? name).map Slot.value := rfl

theorem get?_column (hcolumns : m.columns.Nodup) (hf : f ∈ m.fields) {o : Object} {s : Slot}
    (hs : o.slot? f.field = some s) : m.get? o f.column = some s.value := by
  rw [get?_eq_bind_slot?, fieldOf?_column hcolumns hf, Option.bind_some, hs]
  rfl

end Mapping

/-! ### Filling -/

/-- A structure in which the given fields have been filled from another one, and the other fields
are blank. -/
structure IsFilled (blank o : Object) (names : List String) (filled : Object) : Prop where
  shape : filled.shape = blank.shape
  slots : ∀ name, filled.slot? name = if name ∈ names then o.slot? name else blank.slot? name

/-- A mapping of a structure whose mapped fields are found again from their values, with a blank
structure in which they are null if they can be. -/
structure IsRestorable (m : Mapping) (blank o : Object) : Prop where
  shape : o.shape = blank.shape
  columns : m.columns.Nodup
  declared : ∀ f ∈ m.fields, f.field ∈ o.map (·.name)
  faithful : ∀ s ∈ o, s.name ∈ m.fields.map (·.field) → s.type.IsFaithful
  nulls : ∀ s ∈ blank, s.name ∈ m.fields.map (·.field) → s.type.HoldsNull → s.value.isNull

section Fill

variable {m : Mapping} {blank o filled : Object} {names : List String} {s c : Slot}

theorem IsFilled.nil (blank o : Object) : IsFilled blank o [] blank :=
  ⟨rfl, fun name => by simp⟩

/-- A field that has just been set is filled. -/
theorem IsFilled.assign (h : IsFilled blank o names filled) {name : String} {v : Value}
    (hs : o.slot? name = some s) (hc : filled.slot? name = some c) (hassign : c.assign v = .ok s) :
    ∃ filled', Object.assign name v filled = .ok filled' ∧
      IsFilled blank o (names ++ [name]) filled' := by
  obtain ⟨filled', hok, hshape, hslot⟩ := Object.assign_eq_ok hc hassign
  refine ⟨filled', hok, hshape.trans h.shape, fun other => ?_⟩
  rw [hslot, h.slots other]
  by_cases hother : other = name
  · simp [hother, hs]
  · simp [hother]

/-- A field that is left alone is filled if the blank structure has its content already. -/
theorem IsFilled.skip (h : IsFilled blank o names filled) {name : String}
    (hblank : blank.slot? name = o.slot? name) :
    IsFilled blank o (names ++ [name]) filled := by
  refine ⟨h.shape, fun other => ?_⟩
  rw [h.slots other]
  by_cases hother : other = name
  · simp [hother, hblank]
  · simp [hother]

variable (hm : IsRestorable m blank o)

include hm

/-- A null content is that of the blank structure. -/
theorem IsRestorable.slot?_of_value_eq_null {f : MappedField} (hf : f ∈ m.fields)
    (hs : o.slot? f.field = some s) (hvalue : s.value = .null) :
    blank.slot? f.field = o.slot? f.field := by
  have hmem : f.field ∈ m.fields.map (·.field) := List.mem_map_of_mem hf
  have hsname := Object.name_of_slot? hs
  obtain ⟨b, hb, hbname, hbtype⟩ := Object.exists_slot?_of_shape_eq hm.shape hs
  have hnull : b.value = .null := Value.isNull_eq_true_iff.mp <|
    hm.nulls b (Object.mem_of_slot? hb) (by rwa [hbname, hsname])
      (hbtype ▸ FieldType.holdsNull_of_toValue_eq_null hvalue)
  have hfaithful := hm.faithful s (Object.mem_of_slot? hs) (by rwa [hsname])
  rw [hs, hb, Slot.eq_of_value_eq hbname hbtype hfaithful (hnull.trans hvalue.symm)]

/-- A mapped field is filled from the value of its column. -/
theorem IsRestorable.fill {f : MappedField} (hf : f ∈ m.fields) (h : IsFilled blank o names filled)
    {ρ : Type} [DataRow ρ] {row : ρ} {i : Nat}
    (hrow : DataRow.valueAt row i = .ok ((m.get? o f.column).getD .null)) :
    ∃ filled', (m.entityType blank).fill row filled i f.column = .ok filled' ∧
      IsFilled blank o (names ++ [f.field]) filled' := by
  obtain ⟨s, hs⟩ := Object.exists_slot? (hm.declared f hf)
  rw [Mapping.get?_column hm.columns hf hs, Option.getD_some] at hrow
  simp only [EntityType.fill, hrow]
  by_cases hvalue : s.value = .null
  · refine ⟨filled, ?_, h.skip (hm.slot?_of_value_eq_null hf hs hvalue)⟩
    rw [hvalue]
    rfl
  · obtain ⟨c, hc, hcname, hctype⟩ :=
      Object.exists_slot?_of_shape_eq (hm.shape.trans h.shape.symm) hs
    have hfaithful := hm.faithful s (Object.mem_of_slot? hs)
      (Object.name_of_slot? hs ▸ List.mem_map_of_mem hf)
    obtain ⟨filled', hok, hfilled⟩ :=
      h.assign hs hc (Slot.assign_value hcname hctype hfaithful)
    have hnull : ¬ s.value.isNull = true := fun h => hvalue (Value.isNull_eq_true_iff.mp h)
    have hset : (m.entityType blank).set filled f.column s.value = .ok filled' := by
      simp only [Mapping.entityType, Mapping.set, Mapping.fieldOf?_column hm.columns hf, hok]
    refine ⟨filled', ?_, hfilled⟩
    show (if s.value.isNull = true then _ else _) = _
    rw [if_neg hnull, hset]
    rfl

/-- All mapped fields are filled from a row. -/
theorem IsRestorable.fillAll {ρ : Type} [DataRow ρ] {row : ρ} (fs : List MappedField)
    (hfs : ∀ f ∈ fs, f ∈ m.fields)
    (hrow : ∀ f ∈ fs, ∃ i, DataRow.ordinal? row f.column = some i ∧
      DataRow.valueAt row i = .ok ((m.get? o f.column).getD .null))
    (h : IsFilled blank o names filled) :
    ∃ filled', (m.entityType blank).fillAll row (fs.map fun f => ⟨f.column, f.key⟩) filled =
        ⟨.ok filled', []⟩ ∧
      IsFilled blank o (names ++ fs.map (·.field)) filled' := by
  induction fs generalizing names filled with
  | nil => exact ⟨filled, rfl, by simpa using h⟩
  | cons f fs ih =>
      rw [List.forall_mem_cons] at hfs hrow
      obtain ⟨i, hi, hvalue⟩ := hrow.1
      obtain ⟨next, hnext, hfilled⟩ := hm.fill hfs.1 h hvalue
      obtain ⟨filled', hok, hfilled'⟩ := ih hfs.2 hrow.2 hfilled
      refine ⟨filled', ?_, by simpa using hfilled'⟩
      simp only [List.map_cons, EntityType.fillAll, hi, hnext, hok]

end Fill

/-! ### Written entities -/

/-- A structure that is declared as an entity is found again from each of its rows. All columns
have the values that they had, and the skipped fields are those of the blank structure. Fields that
can hold null are null in the blank structure, since a null column is not set. -/
theorem mapRow_isRowOf {d : Declaration} {x : Expansion} (hd : d.expand = .ok x)
    {blank o : Object} (ho : o.map (·.name) = d.fields.map (·.name))
    (hshape : o.shape = blank.shape) (hdistinct : AreDistinctFolded x.mapping.columns)
    (hfaithful : ∀ s ∈ o, s.name ∈ x.mapping.fields.map (·.field) → s.type.IsFaithful)
    (hnulls : ∀ s ∈ blank, s.name ∈ x.mapping.fields.map (·.field) → s.type.HoldsNull →
      s.value.isNull)
    {r : Record} (hr : IsRowOf (x.mapping.entityType blank) o r) :
    let E := x.mapping.entityType blank
    ∃ filled, E.mapRow r = ⟨.ok filled, []⟩ ∧ filled.shape = blank.shape ∧
      (∀ column, E.get? filled column = E.get? o column) ∧
      (∀ column ∈ x.mapping.columns, ∃ v, E.get? o column = some v) ∧
      ∀ name, name ∉ x.mapping.fields.map (·.field) → filled.slot? name = blank.slot? name := by
  intro E
  have hmapping : IsMappingOf (o.map (·.name)) x.mapping.fields := ho ▸ isMappingOf_expand hd
  have hm : IsRestorable x.mapping blank o :=
    ⟨hshape, hmapping.columns, fun f hf => hmapping.fields.subset (List.mem_map_of_mem hf),
      hfaithful, hnulls⟩
  have hnames : E.descriptor.fields.map (·.name) = x.mapping.columns :=
    x.mapping.map_name_descriptor
  have hdistinct' : AreDistinctFolded (E.descriptor.fields.map (·.name)) := hnames ▸ hdistinct
  have hrow : ∀ f ∈ x.mapping.fields, ∃ i, DataRow.ordinal? r f.column = some i ∧
      DataRow.valueAt r i = .ok ((x.mapping.get? o f.column).getD .null) := fun f hf =>
    hr.exists_valueAt (f := ⟨f.column, f.key⟩) hdistinct' (List.mem_map_of_mem hf)
  obtain ⟨filled, hok, hfilled⟩ :=
    hm.fillAll x.mapping.fields (fun _ => id) hrow (.nil blank o)
  rw [List.nil_append] at hfilled
  refine ⟨filled, hok, hfilled.shape, fun column => ?_, fun column hcolumn => ?_,
    fun name hname => ?_⟩
  · show x.mapping.get? filled column = x.mapping.get? o column
    rw [Mapping.get?_eq_bind_slot?, Mapping.get?_eq_bind_slot?]
    cases hfield : x.mapping.fieldOf? column with
    | none => rfl
    | some name =>
        obtain ⟨f, hf, rfl⟩ := Option.map_eq_some_iff.mp hfield
        have hmem : f.field ∈ x.mapping.fields.map (·.field) :=
          List.mem_map_of_mem (List.mem_of_find?_eq_some hf)
        rw [Option.bind_some, Option.bind_some, hfilled.slots, if_pos hmem]
  · exact Mapping.exists_get?_eq_some hmapping hcolumn
  · rw [hfilled.slots, if_neg hname]

/-- A declaration with a renamed column, a skipped field and fields that can be null. -/
def sensorDeclaration : Declaration :=
  ⟨.struct, "Sensor", [],
    [⟨"id", [.mapping [.bare "key"]]⟩, ⟨"label", [.mapping [.assigned "column" "Label"]]⟩,
      ⟨"cache", [.mapping [.bare "skip"]]⟩, ⟨"level", []⟩, ⟨"since", []⟩, ⟨"raw", []⟩]⟩

/-- The mapping of the declaration. -/
def sensorMapping : Mapping :=
  ⟨"Sensor", [⟨"id", "id", true⟩, ⟨"label", "Label", false⟩, ⟨"level", "level", false⟩,
    ⟨"since", "since", false⟩, ⟨"raw", "raw", false⟩]⟩

/-- A structure with the declared fields; its level is not a number. -/
def sensor : Object :=
  [⟨"id", .integer .nat8, (⟨255, by decide⟩ : Numeric.IntegerType.nat8.Carrier)⟩,
    ⟨"label", .optional .text, none⟩, ⟨"cache", .bool, true⟩,
    ⟨"level", .double, (⟨0xFFF8000000000001⟩ : Numeric.Double)⟩,
    ⟨"since", .optional .date, some Calendar.Date.epoch⟩, ⟨"raw", .value, Value.json .null⟩]

/-- The blank structure, which is null where it can be. -/
def blankSensor : Object :=
  [.blank "id" (.integer .nat8), .blank "label" (.optional .text), .blank "cache" .bool,
    .blank "level" .double, .blank "since" (.optional .date), .blank "raw" .value]

/-- A row of the structure, with the columns in another order and another case. -/
def sensorRow : Record :=
  ⟨[("levels", .null), ("RAW", .json .null), ("since", .date .epoch),
    ("LEVEL", .float ⟨0xFFF8000000000001⟩), ("label", .null),
    ("id", .int ⟨255, by decide⟩)]⟩

theorem isRowOf_sensorRow : IsRowOf (sensorMapping.entityType blankSensor) sensor sensorRow := by
  refine ⟨fun name => if name = "Label" then "label" else if name = "level" then "LEVEL"
    else if name = "raw" then "RAW" else name, [("levels", .null)], fun name => ?_, by decide,
    (List.reverse_perm sensorRow.cells).symm⟩
  dsimp only
  split
  · next h => exact h ▸ by decide
  · split
    · next h => exact h ▸ by decide
    · split
      · next h => exact h ▸ by decide
      · exact sameFolded_refl name

theorem mapRow_isRowOf_sensor :
    let E := sensorMapping.entityType blankSensor
    IsRowOf E sensor sensorRow ∧
    ∃ filled, E.mapRow sensorRow = ⟨.ok filled, []⟩ ∧ filled.shape = blankSensor.shape ∧
      (∀ column, E.get? filled column = E.get? sensor column) ∧
      (∀ column ∈ sensorMapping.columns, ∃ v, E.get? sensor column = some v) ∧
      ∀ name, name ∉ sensorMapping.fields.map (·.field) →
        filled.slot? name = blankSensor.slot? name := by
  have hshape : sensor.shape = blankSensor.shape := rfl
  exact ⟨isRowOf_sensorRow, mapRow_isRowOf (d := sensorDeclaration) (x := ⟨sensorMapping, none⟩)
    rfl rfl hshape (by decide) (by decide) (by decide) isRowOf_sensorRow⟩

end EntitySql
