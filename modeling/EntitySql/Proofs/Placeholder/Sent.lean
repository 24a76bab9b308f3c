import EntitySql.Postgres.Server
import EntitySql.Proofs.Entity.Expansion
import EntitySql.Proofs.Execution.Binding
import EntitySql.Proofs.Placeholder.Write

/-!
# Written entities on a server

The columns of a statement that writes an entity, its placeholders, its bindings and its slots are
four lists that are made apart from each other. They never get out of step: each column is written
beside its own slot, and the value that is sent for the slot is that of the column.

## Main definitions

* `Statement.sent` : what is sent for a statement and an argument.

## Main results

* `positional_textOf` : how fragments without a repeated name are sent.
* `sent_compileInsert`, `sent_compileUpdate`, `sent_compileDelete` : what is sent for a statement
  of an entity type.
* `sent_writes` : what is sent to write a structure that is declared as an entity.
-/

namespace EntitySql

open Text Postgres

/-! ### Sent statements -/

/-- What is sent for a statement and an argument: the text with numbered parameters, and the values
of the parameters. -/
def Statement.sent (s : Statement) (arg : Option Argument) :
    Except Error (String × List Value) :=
  (s.bind arg).map (positional s.sql)

theorem filterMap_getElem?_range {α β : Type} (f : α → β) (xs : List α) :
    (List.range xs.length).filterMap (fun i => (xs[i]?).map f) = xs.map f := by
  induction xs with
  | nil => rfl
  | cons x xs ih =>
      rw [List.length_cons, List.range_succ_eq_map, List.filterMap_cons, List.filterMap_map]
      exact congrArg (f x :: ·) ih

/-- Fragments in which no name is repeated are sent with their parameters in order. -/
theorem positional_textOf {sql : String} {fs : List Fragment} {params : List Param}
    (hscan : IsScannable fs) (hsql : sql.toList = textOf fs)
    (hnames : params.map (·.name) = namesOf fs) (hnodup : (namesOf fs).Nodup) :
    positional sql params =
      (String.ofList (textOf (fs.map (Fragment.number (namesOf fs)))), params.map (·.value)) := by
  have hfirst : params.map (·.name) = firstOccurrences (namesOf fs) := by
    rw [hnames, firstOccurrences_eq_self hnodup]
  have hnumber := numberPlaceholders_textOf hscan hsql hfirst
  have hlength : (params.map (·.name)).length = params.length := List.length_map _
  rw [positional, hnumber, hlength, hnames, filterMap_getElem?_range]

section Sent

variable {α : Type} {s : Statement} {fs : List Fragment} {names : List String}

/-- Deferred bindings without a repeated name are sent with the columns of an entity. -/
theorem sent_ofEntity {sql text : String} (hs : s.bindings = names.map .deferred)
    (hne : names ≠ []) (hsql : s.sql = sql) (hscan : IsScannable fs)
    (hfragments : textOf fs = sql.toList) (hnames : namesOf fs = names) (hnodup : names.Nodup)
    (hnumber : textOf (fs.map (Fragment.number names)) = text.toList)
    (E : EntityType α) (a : α) :
    s.sent (some (.ofEntity E a)) =
      .ok (text, names.map fun n => (E.get? a n).getD .null) := by
  subst hnames
  have hbind := Statement.bind_ofEntity hs hne E a
  have hparams := Statement.map_name_bind hbind
  rw [Statement.names, hs, Binding.map_name_map_deferred] at hparams
  rw [Statement.sent, hbind, Except.map,
    positional_textOf hscan (hsql ▸ hfragments.symm) hparams hnodup, hnumber, String.ofList_toList,
    List.map_map]
  rfl

end Sent

/-! ### Statements of entities -/

theorem compileInsert_eq_ok {entity : Descriptor} {s : Statement}
    (h : compileInsert entity = .ok s) :
    entity.nonKeyFields.map (·.name) ≠ [] ∧
      s.bindings = (entity.nonKeyFields.map (·.name)).map .deferred ∧
      s.sql = "INSERT INTO " ++ entity.table ++ " (" ++
        ", ".intercalate (entity.nonKeyFields.map (·.name)) ++ ") VALUES (" ++
          ", ".intercalate ((entity.nonKeyFields.map (·.name)).map placeholderText) ++ ")" := by
  unfold compileInsert at h
  dsimp only at h
  split at h
  · cases h
  · next hne => exact ⟨hne, (Except.ok.inj h) ▸ rfl, (Except.ok.inj h) ▸ rfl⟩

theorem compileUpdate_eq_ok {entity : Descriptor} {s : Statement}
    (h : compileUpdate entity = .ok s) :
    ∃ key, entity.keyField = .ok key ∧
      s.bindings = (entity.nonKeyFields.map (·.name) ++ [key.name]).map .deferred ∧
      s.sql = "UPDATE " ++ entity.table ++ " SET " ++
        ", ".intercalate ((entity.nonKeyFields.map (·.name)).map assignment) ++ " WHERE " ++
          assignment key.name := by
  obtain ⟨key, hkey, h⟩ := bind_eq_ok_iff.mp h
  dsimp only at h
  split at h
  · cases h
  · refine ⟨key, hkey, ?_, (Except.ok.inj h) ▸ rfl⟩
    rw [← Except.ok.inj h, List.map_append]
    rfl

theorem compileDelete_eq_ok {entity : Descriptor} {v : Value} {s : Statement}
    (h : compileDelete entity v = .ok s) :
    ∃ key, entity.keyField = .ok key ∧ s.bindings = [.literal key.name v] ∧
      s.sql = "DELETE FROM " ++ entity.table ++ " WHERE " ++ assignment key.name := by
  obtain ⟨key, hkey, h⟩ := bind_eq_ok_iff.mp h
  exact ⟨key, hkey, (Except.ok.inj h) ▸ rfl, (Except.ok.inj h) ▸ rfl⟩

section Writes

variable {α : Type} {E : EntityType α} {s : Statement}

theorem isWord_of_mem_nonKeyFields (hwords : ∀ f ∈ E.descriptor.fields, IsWord f.name) :
    ∀ column ∈ E.descriptor.nonKeyFields.map (·.name), IsWord column := by
  intro column hcolumn
  obtain ⟨f, hf, rfl⟩ := List.mem_map.mp hcolumn
  exact hwords f (List.mem_filter.mp hf).1

variable (htable : IsWord E.descriptor.table)
  (hwords : ∀ f ∈ E.descriptor.fields, IsWord f.name)

include htable hwords

/-- An inserted entity is sent column by column. -/
theorem sent_compileInsert (h : compileInsert E.descriptor = .ok s)
    (hnodup : (E.descriptor.nonKeyFields.map (·.name)).Nodup) (a : α) :
    s.sent (some (.ofEntity E a)) =
      .ok (insertText E.descriptor.table (E.descriptor.nonKeyFields.map (·.name)),
        (E.descriptor.nonKeyFields.map (·.name)).map fun n => (E.get? a n).getD .null) := by
  obtain ⟨hne, hbindings, hsql⟩ := compileInsert_eq_ok h
  exact sent_ofEntity hbindings hne hsql
    (isScannable_insertFragments htable (isWord_of_mem_nonKeyFields hwords))
    textOf_insertFragments namesOf_insertFragments hnodup (textOf_number_insertFragments hnodup) E a

/-- An updated entity is sent column by column, and its key behind them. -/
theorem sent_compileUpdate (h : compileUpdate E.descriptor = .ok s)
    (hnodup : (E.descriptor.fields.map (·.name)).Nodup) (a : α) :
    ∃ key, E.descriptor.keyField = .ok key ∧ s.sent (some (.ofEntity E a)) =
      .ok (updateText E.descriptor.table (E.descriptor.nonKeyFields.map (·.name)) key.name,
        (E.descriptor.nonKeyFields.map (·.name) ++ [key.name]).map
          fun n => (E.get? a n).getD .null) := by
  obtain ⟨key, hkey, hbindings, hsql⟩ := compileUpdate_eq_ok h
  have hnodup' := (E.descriptor.perm_names_of_keyField hkey).nodup_iff.mpr hnodup
  exact ⟨key, hkey, sent_ofEntity hbindings (by simp) hsql
    (isScannable_updateFragments htable (isWord_of_mem_nonKeyFields hwords)
      (hwords key (E.descriptor.mem_fields_of_keyField hkey)))
    textOf_updateFragments namesOf_updateFragments hnodup'
    (textOf_number_updateFragments hnodup') E a⟩

/-- To delete a row, its key is sent. -/
theorem sent_compileDelete {v : Value} (h : compileDelete E.descriptor v = .ok s)
    (arg : Option Argument) : ∃ key, E.descriptor.keyField = .ok key ∧
      s.sent arg = .ok (deleteText E.descriptor.table key.name, [v]) := by
  obtain ⟨key, hkey, hbindings, hsql⟩ := compileDelete_eq_ok h
  have hscan := isScannable_deleteFragments htable
    (hwords key (E.descriptor.mem_fields_of_keyField hkey))
  have hnodup : (namesOf (deleteFragments E.descriptor.table key.name)).Nodup := by
    rw [namesOf_deleteFragments]
    simp
  refine ⟨key, hkey, ?_⟩
  rw [Statement.sent, Statement.bind_literal hbindings, Except.map]
  refine congrArg Except.ok ((positional_textOf hscan (hsql ▸ textOf_deleteFragments.symm) rfl
    hnodup).trans ?_)
  rw [namesOf_deleteFragments, textOf_number_deleteFragments, String.ofList_toList]
  rfl

end Writes

/-! ### Derived entities -/

theorem map_getD_null {g : String → Option Value} {names : List String}
    (h : ∀ n ∈ names, ∃ v, g n = some v) :
    names.map g = (names.map fun n => (g n).getD .null).map some := by
  rw [List.map_map]
  refine List.map_congr_left fun n hn => ?_
  obtain ⟨v, hv⟩ := h n hn
  simp [hv]

/-- What is sent to write a structure that is declared as an entity. The mapped fields are declared
ones in their order. Inserted and updated columns stand in that order beside their own slots, and
the value that is sent for a slot is that of its column; an update sends each column exactly once.
To delete a row, only its key is sent. -/
theorem sent_writes {d : Declaration} {x : Expansion} (hd : d.expand = .ok x) {o : Object}
    (ho : o.map (·.name) = d.fields.map (·.name)) (blank : Object)
    (htable : IsWord x.mapping.table) (hcolumns : ∀ column ∈ x.mapping.columns, IsWord column) :
    let E := x.mapping.entityType blank
    let columns := E.descriptor.nonKeyFields.map (·.name)
    (x.mapping.fields.map (·.field)).Sublist (d.fields.map (·.name)) ∧
      (∀ s, compileInsert E.descriptor = .ok s → ∃ values,
        s.sent (some (.ofEntity E o)) = .ok (insertText x.mapping.table columns, values) ∧
          columns.map (E.get? o) = values.map some) ∧
      (∀ s, compileUpdate E.descriptor = .ok s → ∃ key values,
        E.descriptor.keyField = .ok key ∧
          s.sent (some (.ofEntity E o)) =
            .ok (updateText x.mapping.table columns key.name, values) ∧
          (columns ++ [key.name]).map (E.get? o) = values.map some ∧
          (columns ++ [key.name]).Perm x.mapping.columns ∧ x.mapping.columns.Nodup) ∧
      ∀ v s arg, compileDelete E.descriptor v = .ok s → ∃ key,
        E.descriptor.keyField = .ok key ∧
          s.sent arg = .ok (deleteText x.mapping.table key.name, [v]) := by
  intro E columns
  have hmapping := isMappingOf_expand hd
  have hnames : E.descriptor.fields.map (·.name) = x.mapping.columns :=
    x.mapping.map_name_descriptor
  have hwords : ∀ f ∈ E.descriptor.fields, IsWord f.name := fun f hf =>
    hcolumns f.name (hnames ▸ List.mem_map_of_mem hf)
  have hnodup : (E.descriptor.fields.map (·.name)).Nodup := hnames ▸ hmapping.columns
  have hsublist : columns.Sublist (E.descriptor.fields.map (·.name)) :=
    List.filter_sublist.map _
  have hget : ∀ n ∈ E.descriptor.fields.map (·.name), ∃ v, E.get? o n = some v := by
    intro n hn
    rw [hnames] at hn
    exact Mapping.exists_get?_eq_some (ho ▸ hmapping) hn
  refine ⟨hmapping.fields, fun s h => ?_, fun s h => ?_, fun v s arg h => ?_⟩
  · exact ⟨_, sent_compileInsert htable hwords h (hnodup.sublist hsublist) o,
      map_getD_null fun n hn => hget n (hsublist.subset hn)⟩
  · obtain ⟨key, hkey, hsent⟩ := sent_compileUpdate htable hwords h hnodup o
    have hperm := E.descriptor.perm_names_of_keyField hkey
    exact ⟨key, _, hkey, hsent, map_getD_null fun n hn => hget n (hperm.subset hn),
      hnames ▸ hperm, hmapping.columns⟩
  · exact sent_compileDelete htable hwords h arg

/-- A declaration with a renamed column and a skipped field, and the key between the others. -/
def personDeclaration : Declaration :=
  ⟨.struct, "Person", [.mapping [.assigned "table" "people"]],
    [⟨"name", []⟩, ⟨"id", [.mapping [.bare "key"]]⟩, ⟨"note", [.mapping [.bare "skip"]]⟩,
      ⟨"home", [.mapping [.assigned "column" "home_id"]]⟩]⟩

/-- The mapping of the declaration. -/
def personMapping : Mapping :=
  ⟨"people", [⟨"name", "name", false⟩, ⟨"id", "id", true⟩, ⟨"home", "home_id", false⟩]⟩

/-- A structure with the declared fields. -/
def person : Object :=
  [⟨"name", .text, "O'Neil @id"⟩, ⟨"id", .text, "$1"⟩, ⟨"note", .bool, true⟩,
    ⟨"home", .optional .text, none⟩]

theorem sent_writes_person :
    let E := personMapping.entityType []
    let columns := E.descriptor.nonKeyFields.map (·.name)
    (∃ s, compileInsert E.descriptor = .ok s) ∧ (∃ s, compileUpdate E.descriptor = .ok s) ∧
      (personMapping.fields.map (·.field)).Sublist (personDeclaration.fields.map (·.name)) ∧
      (∀ s, compileInsert E.descriptor = .ok s → ∃ values,
        s.sent (some (.ofEntity E person)) = .ok (insertText personMapping.table columns, values) ∧
          columns.map (E.get? person) = values.map some) ∧
      (∀ s, compileUpdate E.descriptor = .ok s → ∃ key values,
        E.descriptor.keyField = .ok key ∧
          s.sent (some (.ofEntity E person)) =
            .ok (updateText personMapping.table columns key.name, values) ∧
          (columns ++ [key.name]).map (E.get? person) = values.map some ∧
          (columns ++ [key.name]).Perm personMapping.columns ∧ personMapping.columns.Nodup) ∧
      ∀ v s arg, compileDelete E.descriptor v = .ok s → ∃ key,
        E.descriptor.keyField = .ok key ∧
          s.sent arg = .ok (deleteText personMapping.table key.name, [v]) :=
  ⟨⟨_, rfl⟩, ⟨_, rfl⟩, sent_writes (d := personDeclaration) (x := ⟨personMapping, none⟩) rfl rfl []
    (by decide) (by decide)⟩

end EntitySql
