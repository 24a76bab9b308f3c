import Mathlib.Data.List.Forall2
import EntitySql.Proofs.Entity.RoundTrip
import EntitySql.Proofs.Row.Mapping

/-!
# Entities filled from records

A record fills the fields of a structure that are mapped to its columns. A field becomes what the
value of its column converts to; it stays as it was if the record does not have the column, if the
value is null, and if the field is skipped. If a value does not convert, the mapping fails with the
error of the first field whose value does not, which names the column as it was declared.

## Main definitions

* `Slot.Becomes` : what a record makes of a field.
* `IsRefused` : a mapped field whose value does not convert.
* `IsMapped` : what a record makes of a structure.

## Main results

* `IsMapped.unique` : a record makes one thing of a structure.
* `IsMapped.cons_of_absent`, `IsMapped.cons_of_isSet`, `IsMapped.cons_of_refused` : one more mapped
  field.
* `isMapped_fillAll` : what the mapped fields are filled with.
* `mapRow_pushed` : what a record is mapped to.
-/

namespace EntitySql

/-! ### What a record makes of a structure -/

/-- What a field becomes when a record fills the mapped fields: the content that the value of its
column converts to, or what it was if it has no column with a value. -/
inductive Slot.Becomes (fs : List MappedField) (r : Record) (s : Slot) : Slot → Prop where
  | kept (h : ∀ f ∈ fs, f.field = s.name → r.present? f.column = none) : Becomes fs r s s
  | converted {f : MappedField} {v : Value} {content : s.type.Carrier} (hf : f ∈ fs)
      (hname : f.field = s.name) (hv : r.present? f.column = some v)
      (hcontent : s.type.ofValue v = .ok content) : Becomes fs r s ⟨s.name, s.type, content⟩

/-- A mapped field whose column has a value that does not convert to the type of the field. -/
def IsRefused (o : Object) (r : Record) (f : MappedField) (failure : ConversionFailure) : Prop :=
  ∃ type v, (f.field, type) ∈ o.shape ∧ r.present? f.column = some v ∧
    type.ofValue v = .error failure

/-- What a record makes of a structure: each field becomes what it has to, or the first mapped field
that is refused gives the error, with the column as it was declared. -/
inductive IsMapped (o : Object) (fs : List MappedField) (r : Record) :
    Except Error Object → Prop where
  | filled {e : Object} (h : List.Forall₂ (Slot.Becomes fs r) o e) : IsMapped o fs r (.ok e)
  | refused {i : Nat} {f : MappedField} {failure : ConversionFailure}
      (hfirst : IsFirstAt (fun f => ∃ failure, IsRefused o r f failure) fs i f)
      (h : IsRefused o r f failure) :
      IsMapped o fs r (.error (.conversion f.column failure.message))

/-! ### Related lists -/

section Related

variable {α β γ : Type} {R : α → β → Prop} {S : β → γ → Prop} {T : α → γ → Prop}
  {xs : List α} {ys : List β} {zs : List γ}

theorem exists_rel_of_mem (h : List.Forall₂ R xs ys) {x : α} (hx : x ∈ xs) :
    ∃ y ∈ ys, R x y := by
  induction h with
  | nil => cases hx
  | cons hxy _ ih =>
      rcases List.mem_cons.mp hx with rfl | hx
      · exact ⟨_, List.mem_cons_self, hxy⟩
      · obtain ⟨y, hy, hxy⟩ := ih hx
        exact ⟨y, List.mem_cons_of_mem _ hy, hxy⟩

theorem forall₂_comp (hT : ∀ x y z, R x y → S y z → T x z) (h : List.Forall₂ R xs ys)
    (h' : List.Forall₂ S ys zs) : List.Forall₂ T xs zs := by
  induction h generalizing zs with
  | nil =>
      cases h'
      exact .nil
  | cons hxy _ ih =>
      cases h' with
      | cons hyz h' => exact .cons (hT _ _ _ hxy hyz) (ih h')

end Related

/-! ### Setting a field -/

/-- What a field is when a value has been given to the fields of a name. -/
inductive Slot.IsSet (name : String) (v : Value) (s : Slot) : Slot → Prop where
  | other (h : s.name ≠ name) : IsSet name v s s
  | named {content : s.type.Carrier} (h : s.name = name)
      (hcontent : s.type.ofValue v = .ok content) : IsSet name v s ⟨s.name, s.type, content⟩

namespace Object

variable {name : String} {v : Value} {o o' : Object}

theorem map_fst_shape (o : Object) : o.shape.map (·.1) = o.map (·.name) := by
  rw [shape, List.map_map]
  rfl

/-- Two fields of one name have one type if no name stands twice. -/
theorem type_unique (hnames : (o.map (·.name)).Nodup) {type type' : FieldType}
    (h : (name, type) ∈ o.shape) (h' : (name, type') ∈ o.shape) : type = type' := by
  rw [← map_fst_shape] at hnames
  exact congrArg Prod.snd (List.inj_on_of_nodup_map hnames h h' rfl)

/-- Setting a field sets the field of its name and no other. -/
theorem isSet_of_assign (hnames : (o.map (·.name)).Nodup) (h : assign name v o = .ok o') :
    List.Forall₂ (Slot.IsSet name v) o o' := by
  induction o generalizing o' with
  | nil =>
      cases h
      exact .nil
  | cons s rest ih =>
      rw [List.map_cons, List.nodup_cons] at hnames
      rw [assign] at h
      split at h
      · next hname =>
          obtain ⟨s', hs', rfl⟩ := map_eq_ok_iff.mp h
          obtain ⟨content, hcontent, rfl⟩ := map_eq_ok_iff.mp hs'
          have hothers : ∀ t ∈ rest, Slot.IsSet name v t t := fun t ht =>
            .other fun htname => hnames.1 (List.mem_map.mpr ⟨t, ht, htname.trans hname.symm⟩)
          exact .cons (.named hname hcontent) (List.forall₂_same.mpr hothers)
      · next hname =>
          obtain ⟨rest', hrest', rfl⟩ := map_eq_ok_iff.mp h
          exact .cons (.other hname) (ih hnames.2 hrest')

/-- Setting a field fails only if the value does not convert to its type. -/
theorem exists_type_of_assign {failure : ConversionFailure} (h : assign name v o = .error failure) :
    ∃ type, (name, type) ∈ o.shape ∧ type.ofValue v = .error failure := by
  induction o with
  | nil => cases h
  | cons s rest ih =>
      rw [assign] at h
      split at h
      · next hname =>
          refine ⟨s.type, List.mem_map.mpr ⟨s, List.mem_cons_self, by rw [hname]⟩, ?_⟩
          cases hcontent : s.type.ofValue v with
          | ok content => simp [Slot.assign, hcontent, Except.map] at h
          | error _ => simpa [Slot.assign, hcontent, Except.map] using h
      · cases hrest : assign name v rest with
        | ok rest' => simp [hrest, Except.map] at h
        | error _ =>
            obtain ⟨type, hmem, htype⟩ := ih (by simpa [hrest, Except.map] using h)
            exact ⟨type, List.mem_cons_of_mem _ hmem, htype⟩

theorem shape_of_isSet (h : List.Forall₂ (Slot.IsSet name v) o o') : o'.shape = o.shape := by
  induction h with
  | nil => rfl
  | cons hs _ ih =>
      have htype : ∀ {s s' : Slot}, s.IsSet name v s' → (s'.name, s'.type) = (s.name, s.type) := by
        rintro s s' (_ | _) <;> rfl
      exact congrArg₂ List.cons (htype hs) ih

end Object

/-! ### One more mapped field -/

section Step

variable {fs : List MappedField} {f : MappedField} {r : Record} {v : Value} {s s₁ s' : Slot}
  {o o₁ : Object} {result : Except Error Object}

namespace Slot.Becomes

/-- A mapped field without a value changes no field. -/
theorem cons_of_absent (habsent : r.present? f.column = none) (h : s.Becomes fs r s') :
    s.Becomes (f :: fs) r s' := by
  cases h with
  | kept h => exact .kept (List.forall_mem_cons.mpr ⟨fun _ => habsent, h⟩)
  | converted hf hname hv hcontent =>
      exact .converted (List.mem_cons_of_mem f hf) hname hv hcontent

/-- A field that has been set is not set again, and all others become what they would have become
before. -/
theorem cons_of_isSet (hfresh : f.field ∉ fs.map (·.field)) (hv : r.present? f.column = some v)
    (hset : s.IsSet f.field v s₁) (h : s₁.Becomes fs r s') : s.Becomes (f :: fs) r s' := by
  cases hset with
  | other hother =>
      cases h with
      | kept h =>
          exact .kept (List.forall_mem_cons.mpr ⟨fun hname => absurd hname.symm hother, h⟩)
      | converted hg hname hv hcontent =>
          exact .converted (List.mem_cons_of_mem f hg) hname hv hcontent
  | named hname hcontent =>
      cases h with
      | kept _ => exact .converted List.mem_cons_self hname.symm hv hcontent
      | converted hg hgname _ _ =>
          -- another mapped field of the same name would be in `fs`
          exact absurd (List.mem_map.mpr ⟨_, hg, hgname.trans hname⟩) hfresh

end Slot.Becomes

theorem isRefused_congr (h : o₁.shape = o.shape) {failure : ConversionFailure} :
    IsRefused o₁ r f failure ↔ IsRefused o r f failure := by
  rw [IsRefused, IsRefused, h]

/-- A field that has been set was not refused. -/
theorem not_isRefused_of_isSet (hv : r.present? f.column = some v)
    (hset : List.Forall₂ (Slot.IsSet f.field v) o o₁) {failure : ConversionFailure} :
    ¬ IsRefused o r f failure := by
  rintro ⟨type, v', htype, hv', hfailure⟩
  obtain rfl : v = v' := Option.some.inj (hv.symm.trans hv')
  obtain ⟨s, hs, hpair⟩ := List.mem_map.mp htype
  obtain ⟨hname, rfl⟩ := Prod.mk.inj hpair
  obtain ⟨s₁, -, hs₁⟩ := exists_rel_of_mem hset hs
  cases hs₁ with
  | other hother => exact hother hname
  | named _ hcontent => rw [hcontent] at hfailure; cases hfailure

namespace IsMapped

theorem cons_of_absent (habsent : r.present? f.column = none) (h : IsMapped o fs r result) :
    IsMapped o (f :: fs) r result := by
  cases h with
  | filled h => exact .filled (h.imp fun _ _ => .cons_of_absent habsent)
  | refused hfirst h =>
      refine .refused (hfirst.tail ?_) h
      rintro ⟨_, _, _, _, hv, _⟩
      rw [habsent] at hv
      cases hv

theorem cons_of_isSet (hfresh : f.field ∉ fs.map (·.field)) (hv : r.present? f.column = some v)
    (hset : List.Forall₂ (Slot.IsSet f.field v) o o₁) (h : IsMapped o₁ fs r result) :
    IsMapped o (f :: fs) r result := by
  cases h with
  | filled h =>
      have hstep : ∀ s s₁ s' : Slot, s.IsSet f.field v s₁ → s₁.Becomes fs r s' →
          s.Becomes (f :: fs) r s' := fun _ _ _ => .cons_of_isSet hfresh hv
      exact .filled (forall₂_comp hstep hset h)
  | refused hfirst h =>
      -- a field is refused by its type, which setting another one does not change
      simp only [isRefused_congr (Object.shape_of_isSet hset)] at hfirst h
      exact .refused (hfirst.tail fun ⟨_, hf⟩ => not_isRefused_of_isSet hv hset hf) h

theorem cons_of_refused {failure : ConversionFailure} (h : IsRefused o r f failure) :
    IsMapped o (f :: fs) r (.error (.conversion f.column failure.message)) :=
  .refused (.head ⟨failure, h⟩) h

end IsMapped

end Step

/-! ### What all mapped fields make of a structure -/

section Run

variable {fs : List MappedField} {r : Record} {o : Object}

/-- The mapped fields of a structure are filled from a record. -/
theorem isMapped_fillAll {m : Mapping} {blank : Object} (hcolumns : m.columns.Nodup)
    (hfs : ∀ f ∈ fs, f ∈ m.fields) (hfields : (fs.map (·.field)).Nodup)
    (hnames : (o.map (·.name)).Nodup) :
    IsMapped o fs r
      ((m.entityType blank).fillAll r (fs.map fun f => ⟨f.column, f.key⟩) o).result := by
  -- the structure changes with each field that is set, so the rest is filled from another one
  induction fs generalizing o with
  | nil =>
      have hkept : ∀ s ∈ o, s.Becomes [] r s := fun s _ => .kept (by simp)
      exact .filled (List.forall₂_same.mpr hkept)
  | cons f fs ih =>
      rw [List.forall_mem_cons] at hfs
      rw [List.map_cons, List.nodup_cons] at hfields
      cases hv : r.present? f.column with
      | none =>
          rw [List.map_cons, EntityType.result_fillAll_of_absent (f := ⟨f.column, f.key⟩) _ hv]
          exact (ih hfs.2 hfields.2 hnames).cons_of_absent hv
      | some v =>
          rw [List.map_cons, EntityType.result_fillAll_of_present (f := ⟨f.column, f.key⟩) _ hv]
          simp only [Mapping.entityType, Mapping.set, Mapping.fieldOf?_column hcolumns hfs.1]
          cases hassign : Object.assign f.field v o with
          | ok o₁ =>
              have hset := Object.isSet_of_assign hnames hassign
              have hnames₁ : (o₁.map (·.name)).Nodup := by
                rwa [← Object.map_fst_shape, Object.shape_of_isSet hset, Object.map_fst_shape]
              exact (ih hfs.2 hfields.2 hnames₁).cons_of_isSet hfields.1 hv hset
          | error failure =>
              obtain ⟨type, htype, hfailure⟩ := Object.exists_type_of_assign hassign
              exact .cons_of_refused ⟨type, v, htype, hv, hfailure⟩

/-- A field whose column has a value becomes what the value converts to, so it is not refused. -/
theorem exists_content_of_becomes (hfields : (fs.map (·.field)).Nodup) {e : Object}
    (h : List.Forall₂ (Slot.Becomes fs r) o e) {f : MappedField} (hf : f ∈ fs) {type : FieldType}
    (htype : (f.field, type) ∈ o.shape) {v : Value} (hv : r.present? f.column = some v) :
    ∃ content, type.ofValue v = .ok content := by
  obtain ⟨s, hs, hpair⟩ := List.mem_map.mp htype
  obtain ⟨hname, rfl⟩ := Prod.mk.inj hpair
  obtain ⟨s', -, hs'⟩ := exists_rel_of_mem h hs
  cases hs' with
  | kept h =>
      rw [h f hf hname.symm] at hv
      cases hv
  | @converted g v' content hg hgname hv' hcontent =>
      obtain rfl : g = f := List.inj_on_of_nodup_map hfields hg hf (hgname.trans hname)
      obtain rfl : v' = v := Option.some.inj (hv'.symm.trans hv)
      exact ⟨content, hcontent⟩

theorem not_isRefused_of_becomes (hfields : (fs.map (·.field)).Nodup) {e : Object}
    (h : List.Forall₂ (Slot.Becomes fs r) o e) {f : MappedField} (hf : f ∈ fs)
    {failure : ConversionFailure} : ¬ IsRefused o r f failure := by
  rintro ⟨type, v, htype, hv, hfailure⟩
  obtain ⟨content, hcontent⟩ := exists_content_of_becomes hfields h hf htype hv
  rw [hcontent] at hfailure
  cases hfailure

/-- A field becomes one thing. -/
theorem Slot.Becomes.unique (hfields : (fs.map (·.field)).Nodup) {s e e' : Slot}
    (h : s.Becomes fs r e) (h' : s.Becomes fs r e') : e = e' := by
  cases h with
  | kept h =>
      cases h' with
      | kept _ => rfl
      | converted hf hname hv _ => rw [h _ hf hname] at hv; cases hv
  | converted hf hname hv hcontent =>
      cases h' with
      | kept h' => rw [h' _ hf hname] at hv; cases hv
      | converted hg hgname hv' hcontent' =>
          obtain rfl := List.inj_on_of_nodup_map hfields hf hg (hname.trans hgname.symm)
          obtain rfl := Option.some.inj (hv.symm.trans hv')
          rw [Except.ok.inj (hcontent.symm.trans hcontent')]

/-- A record makes one thing of a structure. -/
theorem IsMapped.unique (hfields : (fs.map (·.field)).Nodup) (hnames : (o.map (·.name)).Nodup)
    {result result' : Except Error Object} (h : IsMapped o fs r result)
    (h' : IsMapped o fs r result') : result = result' := by
  cases h with
  | filled h =>
      cases h' with
      | filled h' =>
          have hunique : Relator.RightUnique (Slot.Becomes fs r) :=
            fun _ _ _ => Slot.Becomes.unique hfields
          rw [hunique.forall₂ h h']
      | refused hfirst hrefused =>
          exact absurd hrefused (not_isRefused_of_becomes hfields h hfirst.mem)
  | refused hfirst hrefused =>
      cases h' with
      | filled h' => exact absurd hrefused (not_isRefused_of_becomes hfields h' hfirst.mem)
      | refused hfirst' hrefused' =>
          obtain ⟨-, rfl⟩ := hfirst.unique hfirst'
          obtain ⟨type, v, htype, hv, hfailure⟩ := hrefused
          obtain ⟨type', v', htype', hv', hfailure'⟩ := hrefused'
          obtain rfl := Object.type_unique hnames htype htype'
          obtain rfl := Option.some.inj (hv.symm.trans hv')
          rw [Except.error.inj (hfailure.symm.trans hfailure')]

/-- A structure is filled exactly if every value that a mapped field has converts to its type. -/
theorem IsMapped.exists_ok_iff (hfields : (fs.map (·.field)).Nodup)
    {result : Except Error Object} (h : IsMapped o fs r result) :
    (∃ e, result = .ok e) ↔ ∀ f ∈ fs, ∀ type v, (f.field, type) ∈ o.shape →
      r.present? f.column = some v → ∃ content, type.ofValue v = .ok content := by
  cases h with
  | @filled e h =>
      refine ⟨fun _ f hf type v htype hv => ?_, fun _ => ⟨e, rfl⟩⟩
      exact exists_content_of_becomes hfields h hf htype hv
  | @refused i f failure hfirst h =>
      obtain ⟨type, v, htype, hv, hfailure⟩ := h
      constructor
      · rintro ⟨e, he⟩
        cases he
      · intro hconverts
        obtain ⟨content, hcontent⟩ := hconverts f hfirst.mem type v htype hv
        rw [hcontent] at hfailure
        cases hfailure

end Run

/-! ### Records -/

/-- A record, put together from any columns, is mapped field by field in the order of declaration.
The column of a field is the first one with its exact name, or else the first one with its name in
some case, and it always has a value. The fields become what those values convert to, and all
others are kept; or the first field whose value does not convert gives the error. The other columns
do not matter, and of several records the first one that is not mapped gives the error. -/
theorem mapRow_pushed {d : Declaration} {x : Expansion} (hd : d.expand = .ok x)
    (hnames : (d.fields.map (·.name)).Nodup) {blank : Object}
    (hblank : blank.map (·.name) = d.fields.map (·.name)) (cells : List (String × Value)) :
    let E := x.mapping.entityType blank
    let fs := x.mapping.fields
    let r := Record.pushed cells
    (fs.map (·.field)).Sublist (d.fields.map (·.name)) ∧
    (∀ name place, DataRow.ordinal? r name = place ↔ IsColumnAt (cells.map (·.1)) name place) ∧
    (∀ name i, DataRow.ordinal? r name = some i → ∃ cell, cells[i]? = some cell ∧
      DataRow.valueAt r i = .ok cell.2 ∧ r.field? name = some cell.2) ∧
    (∀ name, DataRow.ordinal? r name = none → r.field? name = none) ∧
    (∀ result, (E.mapRow r).result = result ↔ IsMapped blank fs r result) ∧
    ((∃ e, (E.mapRow r).result = .ok e) ↔ ∀ f ∈ fs, ∀ type v, (f.field, type) ∈ blank.shape →
      r.present? f.column = some v → ∃ content, type.ofValue v = .ok content) ∧
    (∀ r' : Record, (∀ f ∈ fs, r'.present? f.column = r.present? f.column) →
      (E.mapRow r').result = (E.mapRow r).result) ∧
    ∀ rows : List Record,
      (∀ es, (E.mapRows rows).result = .ok es ↔
        List.Forall₂ (fun row e => (E.mapRow row).result = .ok e) rows es) ∧
      ∀ error, (E.mapRows rows).result = .error error ↔
        ∃ i row, IsFirstAt (fun row => ∃ e, (E.mapRow row).result = .error e) rows i row ∧
          (E.mapRow row).result = .error error := by
  intro E fs r
  have hmapping := isMappingOf_expand hd
  have hfields : (fs.map (·.field)).Nodup := hmapping.fields.nodup hnames
  have hslots : (blank.map (·.name)).Nodup := hblank ▸ hnames
  have hr : r.cells = cells := congrArg Record.cells (Record.pushed_eq cells)
  have hmapped : IsMapped blank fs r (E.mapRow r).result :=
    isMapped_fillAll hmapping.columns (fun _ => id) hfields hslots
  refine ⟨hmapping.fields, fun name place => ?_, fun name i hi => ?_,
    fun name => Record.field?_eq_none, fun result => ?_, hmapped.exists_ok_iff hfields,
    fun r' h => ?_, fun rows => ⟨fun _ => E.mapRows_eq_ok_iff, fun _ => E.mapRows_eq_error_iff⟩⟩
  · rw [← hr]
    exact ordinalIn?_eq_iff
  · exact hr ▸ Record.exists_cell hi
  · exact ⟨fun h => h ▸ hmapped, hmapped.unique hfields hslots⟩
  · exact E.result_mapRow_congr (by simpa [E, Mapping.entityType, Mapping.descriptor] using h)

/-- Columns of which some stand twice, and others in another case. -/
def doubledCells : List (String × Value) :=
  [("ID", .int ⟨31, by decide⟩), ("id", .int ⟨32, by decide⟩), ("LABEL", .text "upper"),
    ("label", .text "lower"), ("since", .null), ("cache", .bool true), ("level", .text "high")]

theorem mapRow_pushed_doubledCells :
    let E := sensorMapping.entityType blankSensor
    let r := Record.pushed doubledCells
    sensorDeclaration.expand = .ok ⟨sensorMapping, none⟩ ∧
    (sensorDeclaration.fields.map (·.name)).Nodup ∧
    blankSensor.map (·.name) = sensorDeclaration.fields.map (·.name) ∧
    IsColumnAt (doubledCells.map (·.1)) "id" (some 1) ∧
    IsColumnAt (doubledCells.map (·.1)) "Label" (some 2) ∧
    IsMapped blankSensor sensorMapping.fields r (E.mapRow r).result ∧
    (E.mapRow r).result =
      .error (.conversion "level" (ConversionFailure.mismatch (.text "high") .double).message) := by
  have hexpand : sensorDeclaration.expand = .ok ⟨sensorMapping, none⟩ := by decide +kernel
  have hnames : (sensorDeclaration.fields.map (·.name)).Nodup := by decide
  have hblank : blankSensor.map (·.name) = sensorDeclaration.fields.map (·.name) := rfl
  obtain ⟨-, hplace, -, -, hresult, -⟩ := mapRow_pushed hexpand hnames hblank doubledCells
  exact ⟨hexpand, hnames, hblank, (hplace _ _).mp (by decide), (hplace _ _).mp (by decide),
    (hresult _).mp rfl, rfl⟩

end EntitySql
