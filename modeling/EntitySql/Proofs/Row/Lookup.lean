import EntitySql.Proofs.Traversal
import EntitySql.Row.Basic

/-!
# Columns in any case

A column is found under its name in any ASCII case. If all columns of a row that have a name hold
the same value, then that value is found, wherever they stand and whichever of them has the exact
name. In general the column that is found is the first one with the exact name, or else the first
one with the name in some case, and it always has a value.

## Main definitions

* `IsColumnAt` : the place of the column with a name, if there is one.
* `Record.pushed` : a record put together column by column.
* `Record.present?` : the value of a column, if there is one and it is not null.

## Main results

* `sameFolded_trans` : equality but for case is an equivalence.
* `Record.exists_valueAt` : the value that a row holds under a name.
* `ordinalIn?_eq_iff` : which column is found.
* `Record.exists_cell` : the column that is found has a value.
-/

namespace EntitySql

/-! ### Equality but for case -/

theorem sameFolded_iff {a b : String} :
    sameFolded a b = true ↔ a.toList.map Char.toLower = b.toList.map Char.toLower := by
  rw [sameFolded, beq_iff_eq]

theorem sameFolded_refl (a : String) : sameFolded a a = true :=
  sameFolded_iff.mpr rfl

theorem sameFolded_symm {a b : String} (h : sameFolded a b = true) : sameFolded b a = true :=
  sameFolded_iff.mpr (sameFolded_iff.mp h).symm

theorem sameFolded_trans {a b c : String} (h : sameFolded a b = true) (h' : sameFolded b c = true) :
    sameFolded a c = true :=
  sameFolded_iff.mpr ((sameFolded_iff.mp h).trans (sameFolded_iff.mp h'))

/-! ### Places -/

/-- The place that is found is that of a column with the name in some case. -/
theorem exists_sameFolded_of_ordinalIn? {columns : List String} {name : String} {i : Nat}
    (h : ordinalIn? columns name = some i) :
    ∃ c, columns[i]? = some c ∧ sameFolded c name = true := by
  unfold ordinalIn? at h
  rcases Option.or_eq_some_iff.mp h with h | ⟨-, h⟩ <;>
    obtain ⟨hi, hc, -⟩ := List.findIdx?_eq_some_iff_getElem.mp h
  · refine ⟨_, List.getElem?_eq_getElem hi, ?_⟩
    rw [of_decide_eq_true hc]
    exact sameFolded_refl name
  · exact ⟨_, List.getElem?_eq_getElem hi, hc⟩

/-- A place is found if some column has the name in some case. -/
theorem isSome_ordinalIn? {columns : List String} {name c : String} (hc : c ∈ columns)
    (hname : sameFolded c name = true) : (ordinalIn? columns name).isSome := by
  rw [ordinalIn?, Option.isSome_or, List.findIdx?_isSome, List.findIdx?_isSome,
    Bool.or_eq_true, List.any_eq_true (p := fun c => sameFolded c name)]
  exact Or.inr ⟨c, hc, hname⟩

/-- If a record has a column of a name in some case, and all of these columns hold one value, then
that value is at the place that is found. -/
theorem Record.exists_valueAt {r : Record} {name : String} {v : Value}
    (hsome : ∃ cell ∈ r.cells, sameFolded cell.1 name = true)
    (hall : ∀ cell ∈ r.cells, sameFolded cell.1 name = true → cell.2 = v) :
    ∃ i, DataRow.ordinal? r name = some i ∧ DataRow.valueAt r i = .ok v := by
  obtain ⟨cell, hcell, hname⟩ := hsome
  obtain ⟨i, hi⟩ := Option.isSome_iff_exists.mp
    (isSome_ordinalIn? (List.mem_map_of_mem (f := (·.1)) hcell) hname)
  obtain ⟨c, hc, hfolded⟩ := exists_sameFolded_of_ordinalIn? hi
  obtain ⟨found, hfound, rfl⟩ := Option.map_eq_some_iff.mp (List.getElem?_map ▸ hc)
  refine ⟨i, hi, ?_⟩
  rw [← hall found (List.mem_of_getElem? hfound) hfolded]
  show Record.valueAt r i = _
  rw [Record.valueAt, hfound]

/-! ### The column of a name -/

/-- The place of the column with a name: that of the first column spelled like it, or, if there is
none, that of the first column equal to it but for case. -/
inductive IsColumnAt (columns : List String) (name : String) : Option Nat → Prop where
  | spelled {i : Nat} {c : String} (h : IsFirstAt (· = name) columns i c) :
      IsColumnAt columns name (some i)
  | folded {i : Nat} {c : String} (hspelled : name ∉ columns)
      (h : IsFirstAt (sameFolded · name = true) columns i c) : IsColumnAt columns name (some i)
  | absent (h : ∀ c ∈ columns, sameFolded c name = false) : IsColumnAt columns name none

/-- The place that is found is that of the column with the name. -/
theorem ordinalIn?_eq_iff {columns : List String} {name : String} {place : Option Nat} :
    ordinalIn? columns name = place ↔ IsColumnAt columns name place := by
  have hspelled {i : Nat} : columns.findIdx? (fun c => decide (c = name)) = some i ↔
      ∃ c, IsFirstAt (· = name) columns i c := by
    simpa only [decide_eq_true_eq] using
      findIdx?_eq_some_iff_isFirstAt (q := fun c => decide (c = name))
  have hunspelled : columns.findIdx? (fun c => decide (c = name)) = none ↔ name ∉ columns := by
    rw [List.findIdx?_eq_none_iff]
    exact ⟨fun h hmem => by simpa using h name hmem, fun h c hc => by
      simpa using fun hcn : c = name => h (hcn ▸ hc)⟩
  constructor
  · rintro rfl
    unfold ordinalIn?
    cases hexact : columns.findIdx? (fun c => decide (c = name)) with
    | some i =>
        obtain ⟨c, hc⟩ := hspelled.mp hexact
        exact .spelled hc
    | none =>
        rw [Option.none_or]
        cases hcase : columns.findIdx? (fun c => sameFolded c name) with
        | some i =>
            obtain ⟨c, hc⟩ := findIdx?_eq_some_iff_isFirstAt.mp hcase
            exact .folded (hunspelled.mp hexact) hc
        | none => exact .absent (List.findIdx?_eq_none_iff.mp hcase)
  · intro h
    cases h with
    | spelled h => rw [ordinalIn?, hspelled.mpr ⟨_, h⟩, Option.some_or]
    | folded hnone h =>
        rw [ordinalIn?, hunspelled.mpr hnone, Option.none_or]
        exact findIdx?_eq_some_iff_isFirstAt.mpr ⟨_, h⟩
    | absent h =>
        have hnone : name ∉ columns := fun hmem => by simpa [sameFolded_refl] using h name hmem
        rw [ordinalIn?, hunspelled.mpr hnone, Option.none_or]
        exact List.findIdx?_eq_none_iff.mpr h

/-! ### Records -/

namespace Record

/-- The record that columns with values give, one after the other. -/
def pushed (cells : List (String × Value)) : Record :=
  cells.foldl (fun r cell => r.push cell.1 cell.2) empty

theorem foldl_push (cells : List (String × Value)) (r : Record) :
    cells.foldl (fun r cell => r.push cell.1 cell.2) r = ⟨r.cells ++ cells⟩ := by
  induction cells generalizing r with
  | nil => simp
  | cons cell cells ih => rw [List.foldl_cons, ih, push, List.append_assoc, List.singleton_append]

/-- A record has the columns that it was given, in the order in which they were given. -/
theorem pushed_eq (cells : List (String × Value)) : pushed cells = ⟨cells⟩ :=
  foldl_push cells empty

/-- The value of a column, if the row has the column and it is not null. -/
def present? (r : Record) (column : String) : Option Value :=
  (r.field? column).filter fun v => !v.isNull

/-- A column that is found is one of the row, and has its value. -/
theorem exists_cell {r : Record} {column : String} {i : Nat}
    (h : DataRow.ordinal? r column = some i) :
    ∃ cell, r.cells[i]? = some cell ∧ DataRow.valueAt r i = .ok cell.2 ∧
      r.field? column = some cell.2 := by
  have hi : ordinalIn? r.columns column = some i := h
  obtain ⟨cell, hcell⟩ : ∃ cell, r.cells[i]? = some cell :=
    ⟨_, List.getElem?_eq_getElem (by simpa [columns] using lt_length_of_ordinalIn? hi)⟩
  refine ⟨cell, hcell, ?_, by rw [field?, hi, Option.bind_some, hcell, Option.map_some]⟩
  show r.valueAt i = _
  rw [valueAt, hcell]

/-- A column that is not found has no value. -/
theorem field?_eq_none {r : Record} {column : String} (h : DataRow.ordinal? r column = none) :
    r.field? column = none := by
  have hnone : ordinalIn? r.columns column = none := h
  rw [field?, hnone, Option.bind_none]

end Record

end EntitySql
