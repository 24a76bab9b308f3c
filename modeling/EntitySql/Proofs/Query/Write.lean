import EntitySql.Query.Write

/-!
# Descriptors that can be written

A descriptor is written by hand or derived, and any of its columns may be flagged as the key. Rows
can be updated and deleted if one column is the key and no other one is; they can be inserted and
updated if there are other columns than keys. The statements list these columns, their placeholders
and their bindings in the order in which they are declared, and the key behind them.

## Main definitions

* `Descriptor.columns` : the names of the columns that are no keys.
* `Descriptor.IsOnlyKey`, `Descriptor.Miskeyed` : the key, and the errors of having none or several.
* `insertStatement`, `updateStatement`, `deleteStatement` : the statements.
* `Descriptor.InsertsAs`, `Descriptor.UpdatesAs`, `Descriptor.DeletesAs` : the statement that writes
  a descriptor, or the error for which there is none.

## Main results

* `Descriptor.keyField_eq_ok_iff_isOnlyKey`, `Descriptor.keyField_eq_error_iff` : which key is
  found.
* `compileInsert_eq_iff`, `compileUpdate_eq_iff`, `compileDelete_eq_iff` : what is compiled.
* `Descriptor.writes` : which descriptors can be written, and by which statements.
-/

namespace EntitySql

/-! ### Keys -/

namespace Descriptor

/-- The names of the columns that are no keys, in the order in which they are declared. -/
def columns (d : Descriptor) : List String :=
  (d.fields.filter fun f => !f.key).map (·.name)

/-- The one column that is flagged as the key, if all others are not. -/
def IsOnlyKey (d : Descriptor) (key : FieldDescriptor) : Prop :=
  ∃ before after, d.fields = before ++ key :: after ∧ key.key = true ∧
    ∀ f ∈ before ++ after, f.key = false

/-- The error of a descriptor in which no column is flagged as the key, or two columns are. -/
inductive Miskeyed (d : Descriptor) : Error → Prop
  | missing (h : ∀ f ∈ d.fields, f.key = false) : Miskeyed d (.missingKey d.table)
  | several {first second} (h : [first, second].Sublist d.fields) (hfirst : first.key = true)
      (hsecond : second.key = true) :
      Miskeyed d (.validation ("entity " ++ d.table ++ " declares more than one key field"))

section Keys

variable {d : Descriptor} {key : FieldDescriptor} {e : Error}

theorem columns_eq_nil_iff : d.columns = [] ↔ ∀ f ∈ d.fields, f.key = true := by
  simp [columns]

theorem columns_ne_nil_iff : d.columns ≠ [] ↔ ∃ f ∈ d.fields, f.key = false := by
  simp [columns]

theorem keyFields_eq_nil_iff : d.keyFields = [] ↔ ∀ f ∈ d.fields, f.key = false := by
  simp [keyFields]

theorem keyFields_eq_singleton_iff : d.keyFields = [key] ↔ d.IsOnlyKey key := by
  simp only [keyFields, List.filter_eq_cons_iff, List.filter_eq_nil_iff, Bool.not_eq_true]
  constructor
  · rintro ⟨before, after, hfields, hbefore, hkey, hafter⟩
    exact ⟨before, after, hfields, hkey, List.forall_mem_append.mpr ⟨hbefore, hafter⟩⟩
  · rintro ⟨before, after, hfields, hkey, hothers⟩
    obtain ⟨hbefore, hafter⟩ := List.forall_mem_append.mp hothers
    exact ⟨before, after, hfields, hbefore, hkey, hafter⟩

/-- Two columns that are flagged as the key are the first and another one of those that are. -/
theorem exists_sublist_iff : (∃ first second, [first, second].Sublist d.fields ∧
    first.key = true ∧ second.key = true) ↔ 2 ≤ d.keyFields.length := by
  constructor
  · rintro ⟨first, second, h, hfirst, hsecond⟩
    have hkeys : [first, second].Sublist d.keyFields := by
      simpa [keyFields, hfirst, hsecond] using h.filter (·.key)
    exact hkeys.length_le
  · intro h
    match hkeys : d.keyFields, h with
    | first :: second :: rest, _ =>
        have hkey : ∀ f ∈ first :: second :: rest, f.key = true := fun f hf =>
          (List.mem_filter.mp (hkeys ▸ hf)).2
        have hsublist : (first :: second :: rest).Sublist d.fields := hkeys ▸ List.filter_sublist
        exact ⟨first, second, (List.take_sublist 2 _).trans hsublist, hkey _ (by simp),
          hkey _ (by simp)⟩

theorem keyField_eq_ok_iff_isOnlyKey : d.keyField = .ok key ↔ d.IsOnlyKey key := by
  rw [keyField_eq_ok_iff, keyFields_eq_singleton_iff]

theorem keyField_eq_error_iff : d.keyField = .error e ↔ d.Miskeyed e := by
  constructor
  · intro h
    unfold keyField at h
    split at h
    · next hkeys =>
        cases h
        exact .missing (keyFields_eq_nil_iff.mp hkeys)
    · cases h
    · next hnil hsingle =>
        cases h
        have hlength : 2 ≤ d.keyFields.length := by
          match hkeys : d.keyFields with
          | [] => exact absurd hkeys hnil
          | [key] => exact absurd hkeys (hsingle key)
          | _ :: _ :: _ => simp
        obtain ⟨first, second, hsublist, hfirst, hsecond⟩ := exists_sublist_iff.mpr hlength
        exact .several hsublist hfirst hsecond
  · intro h
    cases h with
    | missing h => rw [keyField, keyFields_eq_nil_iff.mpr h]
    | several h hfirst hsecond =>
        have hlength := exists_sublist_iff.mp ⟨_, _, h, hfirst, hsecond⟩
        unfold keyField
        match hkeys : d.keyFields, hlength with
        | _ :: _ :: _, _ => rfl

/-- What needs the key is done with the only key, or is refused if there is none. -/
theorem keyField_bind_eq_iff {α : Type} {f : FieldDescriptor → Except Error α}
    {result : Except Error α} : d.keyField >>= f = result ↔
      (∃ key, d.IsOnlyKey key ∧ f key = result) ∨ ∃ e, d.Miskeyed e ∧ result = .error e := by
  simp only [← keyField_eq_ok_iff_isOnlyKey, ← keyField_eq_error_iff]
  cases d.keyField with
  | ok key =>
      constructor
      · exact fun h => .inl ⟨key, rfl, h⟩
      · rintro (⟨_, hkey, h⟩ | ⟨_, he, -⟩)
        · cases hkey
          exact h
        · cases he
  | error e =>
      constructor
      · exact fun h => .inr ⟨e, rfl, h.symm⟩
      · rintro (⟨_, hkey, -⟩ | ⟨_, he, h⟩)
        · cases hkey
        · cases he
          exact h.symm

end Keys

end Descriptor

/-! ### Statements -/

/-- The statement that inserts columns into a table. Each column has a placeholder whose value comes
from the argument. -/
def insertStatement (table : String) (columns : List String) : Statement where
  kind := .insert
  sql := "INSERT INTO " ++ table ++ " (" ++ ", ".intercalate columns ++ ") VALUES ("
    ++ ", ".intercalate (columns.map fun c => "@" ++ c) ++ ")"
  bindings := columns.map fun c => ⟨c, none⟩
  raw := false

/-- The statement that sets columns in the row with a key. The values of the columns and that of the
key come from the argument. -/
def updateStatement (table : String) (columns : List String) (key : String) : Statement where
  kind := .update
  sql := "UPDATE " ++ table ++ " SET " ++ ", ".intercalate (columns.map fun c => c ++ " = @" ++ c)
    ++ " WHERE " ++ key ++ " = @" ++ key
  bindings := (columns ++ [key]).map fun c => ⟨c, none⟩
  raw := false

/-- The statement that deletes the row with a key. The value of the key is known. -/
def deleteStatement (table key : String) (v : Value) : Statement where
  kind := .delete
  sql := "DELETE FROM " ++ table ++ " WHERE " ++ key ++ " = @" ++ key
  bindings := [⟨key, some v⟩]
  raw := false

theorem keyColumn?_updateStatement (table : String) (columns : List String) (key : String) :
    (updateStatement table columns key).keyColumn? = some key := by
  simp [updateStatement, Statement.keyColumn?]

namespace Descriptor

/-- The statement that inserts rows, or the error that there is nothing to insert. -/
inductive InsertsAs (d : Descriptor) : Except Error Statement → Prop
  | written (h : ∃ f ∈ d.fields, f.key = false) :
      InsertsAs d (.ok (insertStatement d.table d.columns))
  | nothing (h : ∀ f ∈ d.fields, f.key = true) :
      InsertsAs d (.error (.validation ("entity " ++ d.table ++ " has no insertable fields")))

/-- The statement that updates rows, or the error of the keys, or else the error that there is
nothing to set. -/
inductive UpdatesAs (d : Descriptor) : Except Error Statement → Prop
  | written {key} (hkey : d.IsOnlyKey key) (h : ∃ f ∈ d.fields, f.key = false) :
      UpdatesAs d (.ok (updateStatement d.table d.columns key.name))
  | miskeyed {e} (h : d.Miskeyed e) : UpdatesAs d (.error e)
  | nothing {key} (hkey : d.IsOnlyKey key) (h : ∀ f ∈ d.fields, f.key = true) :
      UpdatesAs d (.error (.validation ("entity " ++ d.table ++ " has no fields to update")))

/-- The statement that deletes the row with a value of the key, or the error of the keys. -/
inductive DeletesAs (d : Descriptor) (v : Value) : Except Error Statement → Prop
  | written {key} (hkey : d.IsOnlyKey key) :
      DeletesAs d v (.ok (deleteStatement d.table key.name v))
  | miskeyed {e} (h : d.Miskeyed e) : DeletesAs d v (.error e)

end Descriptor

section Compilation

variable {d : Descriptor} {v : Value} {result : Except Error Statement}

theorem assignment_eq (c : String) : assignment c = c ++ " = @" ++ c := by
  have hmark : " = @" = " = " ++ "@" := by decide
  rw [assignment, placeholderText, hmark]
  simp only [String.append_assoc]

theorem compileInsert_eq : compileInsert d = if d.columns = [] then
    .error (.validation ("entity " ++ d.table ++ " has no insertable fields"))
      else .ok (insertStatement d.table d.columns) := by
  rfl

theorem compileUpdate_eq : compileUpdate d = d.keyField >>= fun key => if d.columns = [] then
    .error (.validation ("entity " ++ d.table ++ " has no fields to update"))
      else .ok (updateStatement d.table d.columns key.name) := by
  have hassignment : assignment = fun c => c ++ " = @" ++ c := funext assignment_eq
  simp only [compileUpdate, hassignment, updateStatement, List.map_append, String.append_assoc]
  rfl

theorem compileDelete_eq : compileDelete d v =
    d.keyField >>= fun key => .ok (deleteStatement d.table key.name v) := by
  simp only [compileDelete, assignment_eq, deleteStatement, String.append_assoc]
  rfl

/-- Rows are inserted if some column is no key. -/
theorem compileInsert_eq_iff : compileInsert d = result ↔ d.InsertsAs result := by
  rw [compileInsert_eq]
  constructor
  · rintro rfl
    split
    · next hnil => exact .nothing (Descriptor.columns_eq_nil_iff.mp hnil)
    · next hne => exact .written (Descriptor.columns_ne_nil_iff.mp hne)
  · intro h
    cases h with
    | written h => exact if_neg (Descriptor.columns_ne_nil_iff.mpr h)
    | nothing h => exact if_pos (Descriptor.columns_eq_nil_iff.mpr h)

/-- Rows are updated if one column is the only key and another one is there. -/
theorem compileUpdate_eq_iff : compileUpdate d = result ↔ d.UpdatesAs result := by
  rw [compileUpdate_eq, Descriptor.keyField_bind_eq_iff]
  constructor
  · rintro (⟨key, hkey, rfl⟩ | ⟨e, he, rfl⟩)
    · split
      · next hnil => exact .nothing hkey (Descriptor.columns_eq_nil_iff.mp hnil)
      · next hne => exact .written hkey (Descriptor.columns_ne_nil_iff.mp hne)
    · exact .miskeyed he
  · intro h
    cases h with
    | written hkey h => exact .inl ⟨_, hkey, if_neg (Descriptor.columns_ne_nil_iff.mpr h)⟩
    | miskeyed he => exact .inr ⟨_, he, rfl⟩
    | nothing hkey h => exact .inl ⟨_, hkey, if_pos (Descriptor.columns_eq_nil_iff.mpr h)⟩

/-- Rows are deleted if one column is the only key. -/
theorem compileDelete_eq_iff : compileDelete d v = result ↔ d.DeletesAs v result := by
  rw [compileDelete_eq, Descriptor.keyField_bind_eq_iff]
  constructor
  · rintro (⟨key, hkey, rfl⟩ | ⟨e, he, rfl⟩)
    · exact .written hkey
    · exact .miskeyed he
  · intro h
    cases h with
    | written hkey => exact .inl ⟨_, hkey, rfl⟩
    | miskeyed he => exact .inr ⟨_, he, rfl⟩

end Compilation

/-- Rows of a descriptor can be inserted if some column is no key, updated if besides there is just
one key, and deleted if there is just one key. The statements list the columns that are no keys in
the order in which they are declared, and the key behind them, which is the column that updates and
deletes are matched on. Else there is an error, which is that of the keys if they are to blame. -/
theorem Descriptor.writes (d : Descriptor) :
    ((∃ s, compileInsert d = .ok s) ↔ ∃ f ∈ d.fields, f.key = false) ∧
    ((∃ s, compileUpdate d = .ok s) ↔
      (∃ key, d.IsOnlyKey key) ∧ ∃ f ∈ d.fields, f.key = false) ∧
    (∀ v, (∃ s, compileDelete d v = .ok s) ↔ ∃ key, d.IsOnlyKey key) ∧
    (∀ result, compileInsert d = result ↔ d.InsertsAs result) ∧
    (∀ result, compileUpdate d = result ↔ d.UpdatesAs result) ∧
    (∀ v result, compileDelete d v = result ↔ d.DeletesAs v result) ∧
    (insertStatement d.table d.columns).keyColumn? = none ∧
    ∀ key v, (updateStatement d.table d.columns key).keyColumn? = some key ∧
      (deleteStatement d.table key v).keyColumn? = some key := by
  refine ⟨?_, ?_, fun v => ?_, fun _ => compileInsert_eq_iff, fun _ => compileUpdate_eq_iff,
    fun _ _ => compileDelete_eq_iff, rfl, fun key v => ⟨keyColumn?_updateStatement _ _ _, rfl⟩⟩
  · simp only [compileInsert_eq_iff]
    constructor
    · rintro ⟨_, h⟩
      cases h with
      | written h => exact h
    · exact fun h => ⟨_, .written h⟩
  · simp only [compileUpdate_eq_iff]
    constructor
    · rintro ⟨_, h⟩
      cases h with
      | written hkey h => exact ⟨⟨_, hkey⟩, h⟩
    · exact fun ⟨⟨_, hkey⟩, h⟩ => ⟨_, .written hkey h⟩
  · simp only [compileDelete_eq_iff]
    constructor
    · rintro ⟨_, h⟩
      cases h with
      | written hkey => exact ⟨_, hkey⟩
    · exact fun ⟨_, hkey⟩ => ⟨_, .written hkey⟩

end EntitySql
