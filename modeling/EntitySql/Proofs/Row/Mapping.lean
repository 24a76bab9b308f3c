import EntitySql.Proofs.Row.Lookup
import EntitySql.Row.Mapping

/-!
# Rows one after the other

Rows are mapped in their order. All of them have to be mapped for the mapping to succeed, and what
it fails with is the error of the first row that fails. A record is mapped field by field, and what
it is mapped to depends on the values of the columns only that are found and not null.

## Main results

* `EntityType.result_mapRows` : rows are traversed.
* `EntityType.mapRows_eq_ok_iff`, `EntityType.mapRows_eq_error_iff` : what rows are mapped to.
* `EntityType.result_fillAll_of_absent`, `EntityType.result_fillAll_of_present` : one field of a
  record.
* `EntityType.result_mapRow_congr` : records with the same values in the columns of a type.
-/

namespace EntitySql.EntityType

variable {α ρ : Type} [DataRow ρ] (E : EntityType α)

/-! ### Lists of rows -/

/-- Mapping a row is a step, and it is taken for each row. -/
theorem result_mapRows (rows : List ρ) :
    (E.mapRows rows).result = rows.mapM fun row => (E.mapRow row).result := by
  induction rows with
  | nil => rfl
  | cons row rows ih =>
      rw [mapRows, List.mapM_cons, ← ih]
      cases (E.mapRow row).result <;> rfl

/-- Rows are mapped to entities if every row is mapped to the entity in its place. -/
theorem mapRows_eq_ok_iff {rows : List ρ} {es : List α} :
    (E.mapRows rows).result = .ok es ↔
      List.Forall₂ (fun row e => (E.mapRow row).result = .ok e) rows es := by
  rw [result_mapRows, mapM_eq_ok_iff]

/-- The mapping of rows fails with the error of the first row that is not mapped. -/
theorem mapRows_eq_error_iff {rows : List ρ} {error : Error} :
    (E.mapRows rows).result = .error error ↔
      ∃ i row, IsFirstAt (fun row => ∃ e, (E.mapRow row).result = .error e) rows i row ∧
        (E.mapRow row).result = .error error := by
  rw [result_mapRows]
  exact mapM_eq_error_iff

/-! ### Fields of a record -/

variable {r r' : Record} {f : FieldDescriptor} {fs : List FieldDescriptor} {a : α}

/-- A field without a value is left as it is. -/
theorem result_fillAll_of_absent (h : r.present? f.name = none) :
    (E.fillAll r (f :: fs) a).result = (E.fillAll r fs a).result := by
  rw [fillAll]
  cases hplace : DataRow.ordinal? r f.name with
  | none => rfl
  | some i =>
      obtain ⟨cell, -, hvalue, hfield⟩ := Record.exists_cell hplace
      have hnull : cell.2.isNull = true := by simpa [Record.present?, hfield] using h
      have hfill : E.fill r a i f.name = .ok a := by
        rw [fill, hvalue]
        exact if_pos hnull
      simp only [hfill]

/-- A field with a value is set, and the others are filled after it. -/
theorem result_fillAll_of_present {v : Value} (h : r.present? f.name = some v) :
    (E.fillAll r (f :: fs) a).result =
      (E.set a f.name v).mapError (Error.forColumn f.name) >>= fun a =>
        (E.fillAll r fs a).result := by
  obtain ⟨hfield, hnull⟩ := Option.filter_eq_some_iff.mp h
  rw [fillAll]
  cases hplace : DataRow.ordinal? r f.name with
  | none => rw [Record.field?_eq_none hplace] at hfield; cases hfield
  | some i =>
      obtain ⟨cell, -, hvalue, hcell⟩ := Record.exists_cell hplace
      obtain rfl : cell.2 = v := Option.some.inj (hcell.symm.trans hfield)
      have hfill : E.fill r a i f.name =
          (E.set a f.name cell.2).mapError (Error.forColumn f.name) := by
        rw [fill, hvalue]
        exact if_neg (by simpa using hnull)
      simp only [hfill]
      cases (E.set a f.name cell.2).mapError (Error.forColumn f.name) <;> rfl

theorem result_fillAll_congr (h : ∀ f ∈ fs, r'.present? f.name = r.present? f.name) (a : α) :
    (E.fillAll r' fs a).result = (E.fillAll r fs a).result := by
  induction fs generalizing a with
  | nil => rfl
  | cons f fs ih =>
      rw [List.forall_mem_cons] at h
      cases hf : r.present? f.name with
      | none =>
          rw [E.result_fillAll_of_absent hf, E.result_fillAll_of_absent (h.1.trans hf), ih h.2]
      | some v =>
          rw [E.result_fillAll_of_present hf, E.result_fillAll_of_present (h.1.trans hf)]
          exact congrArg _ (funext (ih h.2))

/-- Records with the same values in the columns of an entity type are mapped to the same. -/
theorem result_mapRow_congr
    (h : ∀ f ∈ E.descriptor.fields, r'.present? f.name = r.present? f.name) :
    (E.mapRow r').result = (E.mapRow r).result :=
  E.result_fillAll_congr h E.blank

end EntitySql.EntityType
