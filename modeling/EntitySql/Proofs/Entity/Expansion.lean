import EntitySql.Entity.Declaration
import EntitySql.Proofs.Result

/-!
# Mappings of declarations

A declaration that is accepted maps fields that it declares, in the order in which it declares them.
No column is mapped twice, and at most one of them is the key.

## Main definitions

* `IsMappingOf` : the mapped fields that a declaration may have.
* `Mapping.columns` : the names of the columns of a mapping.

## Main results

* `IsMappingOf.add`, `IsMappingOf.skip` : one more declared field.
* `isMappingOf_expand` : every accepted declaration has such fields.
* `Mapping.exists_get?_eq_some` : a structure with the declared fields has a value for each column.
-/

namespace EntitySql

/-- Mapped fields are among the declared ones and in their order, no two have one column, and at
most one is the key. -/
structure IsMappingOf (names : List String) (mapped : List MappedField) : Prop where
  fields : (mapped.map (·.field)).Sublist names
  columns : (mapped.map (·.column)).Nodup
  keys : (mapped.filter (·.key)).length ≤ 1

namespace IsMappingOf

variable {names : List String} {mapped : List MappedField}

/-- A declared field that is skipped. -/
theorem skip (h : IsMappingOf names mapped) (name : String) :
    IsMappingOf (names ++ [name]) mapped :=
  ⟨h.fields.trans (List.sublist_append_left names [name]), h.columns, h.keys⟩

/-- A declared field that is mapped. -/
theorem add (h : IsMappingOf names mapped) {m : MappedField} {mapped' : List MappedField}
    (hadd : addMapped mapped m = .ok mapped') : IsMappingOf (names ++ [m.field]) mapped' := by
  unfold addMapped at hadd
  split at hadd
  · cases hadd
  · next hkey =>
      split at hadd
      · cases hadd
      · next hcolumn =>
          cases hadd
          refine ⟨?_, ?_, ?_⟩
          · rw [List.map_append]
            exact h.fields.append (List.Sublist.refl _)
          · have hfresh : ∀ g ∈ mapped, g.column ≠ m.column := fun g hg hgc =>
              hcolumn (List.any_eq_true.mpr ⟨g, hg, decide_eq_true hgc⟩)
            simpa [List.nodup_append, h.columns] using hfresh
          · cases hk : m.key with
            | false => simpa [hk] using h.keys
            | true =>
                have hnone : mapped.filter (·.key) = [] := by
                  simpa [hk, List.filter_eq_nil_iff] using hkey
                simp [hnone, hk]

end IsMappingOf

theorem FieldDeclaration.field_of_mapped? {f : FieldDeclaration} {m : MappedField}
    (h : f.mapped? = .ok (some m)) : m.field = f.name := by
  obtain ⟨o, -, h⟩ := bind_eq_ok_iff.mp h
  have h := Except.ok.inj h
  split at h <;> cases h
  rfl

/-- The fields mapped so far stay a mapping of the fields declared so far. -/
theorem isMappingOf_mapFields {names : List String} {mapped mapped' : List MappedField}
    {fs : List FieldDeclaration} (h : IsMappingOf names mapped)
    (hmap : mapFields mapped fs = .ok mapped') :
    IsMappingOf (names ++ fs.map (·.name)) mapped' := by
  induction fs generalizing names mapped with
  | nil =>
      cases hmap
      simpa using h
  | cons f fs ih =>
      have hnames : names ++ (f :: fs).map (·.name) = (names ++ [f.name]) ++ fs.map (·.name) := by
        simp
      rw [hnames]
      obtain ⟨m?, hm, hmap⟩ := bind_eq_ok_iff.mp hmap
      cases m? with
      | none => exact ih (h.skip f.name) hmap
      | some m =>
          obtain ⟨added, hadd, hmap⟩ := bind_eq_ok_iff.mp hmap
          exact ih (FieldDeclaration.field_of_mapped? hm ▸ h.add hadd) hmap

/-- The mapping of an accepted declaration is a mapping of its fields. -/
theorem isMappingOf_expand {d : Declaration} {x : Expansion} (h : d.expand = .ok x) :
    IsMappingOf (d.fields.map (·.name)) x.mapping.fields := by
  unfold Declaration.expand at h
  split at h
  · cases h
  · split at h <;> try cases h
    obtain ⟨o, -, h⟩ := bind_eq_ok_iff.mp h
    obtain ⟨mapped, hmapped, h⟩ := bind_eq_ok_iff.mp h
    cases h
    have hempty : IsMappingOf [] [] := ⟨.slnil, .nil, by simp⟩
    simpa using isMappingOf_mapFields hempty hmapped

/-! ### Values of columns -/

/-- The names of the columns of a mapping. -/
def Mapping.columns (m : Mapping) : List String :=
  m.fields.map (·.column)

theorem Mapping.map_name_descriptor (m : Mapping) :
    m.descriptor.fields.map (·.name) = m.columns := by
  simp [descriptor, columns, Function.comp_def]

/-- A structure with the declared fields has a value for each column. -/
theorem Mapping.exists_get?_eq_some {m : Mapping} {o : Object}
    (h : IsMappingOf (o.map (·.name)) m.fields) {column : String}
    (hcolumn : column ∈ m.fields.map (·.column)) : ∃ v, m.get? o column = some v := by
  obtain ⟨f, hf, hfc⟩ := List.mem_map.mp hcolumn
  obtain ⟨g, hg⟩ : ∃ g, m.fields.find? (·.column = column) = some g :=
    Option.isSome_iff_exists.mp (List.find?_isSome.mpr ⟨f, hf, by simpa using hfc⟩)
  have hfield : g.field ∈ o.map (·.name) :=
    h.fields.subset (List.mem_map_of_mem (List.mem_of_find?_eq_some hg))
  obtain ⟨s, hs, hsn⟩ := List.mem_map.mp hfield
  obtain ⟨t, ht⟩ : ∃ t, o.find? (·.name = g.field) = some t :=
    Option.isSome_iff_exists.mp (List.find?_isSome.mpr ⟨s, hs, by simpa using hsn⟩)
  exact ⟨t.value, by simp [get?, fieldOf?, hg, Object.read?, ht]⟩

end EntitySql
