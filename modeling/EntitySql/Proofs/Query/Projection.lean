import EntitySql.Proofs.Expr.Chain
import EntitySql.Proofs.Traversal
import EntitySql.Query.Projection

/-!
# The grammar of projections

A projection is an item or a record of items, and an item is a chain of members of the row, in one
conversion at most. An expression that is no projection is refused for its first item that is bad:
a chain that starts elsewhere is shown as a member, and anything else as a shape.

## Main definitions

* `Expr.IsItem`, `Expr.IsProjection` : the grammar, with the columns that are named.
* `Expr.items` : the items of an expression.
* `Expr.IsStray` : chains that do not start at the row.
* `Expr.Misnames` : the error of a bad item.

## Main results

* `Expr.projectedColumn_eq_ok_iff`, `Expr.projectedColumn_eq_error_iff` : what an item gives.
* `Expr.projectedColumns_names_or_reports` : the columns of projections, and the errors of other
  expressions.
-/

namespace EntitySql

namespace Expr

/-! ### The grammar -/

/-- The items of projections and the names of their columns: a chain of members of the row, or such
a chain in one conversion. -/
inductive IsItem : Expr → ColumnPath → Prop
  | chain {path} (h : path ≠ []) : IsItem (chain .row path) path
  | converted {path} (h : path ≠ []) : IsItem (.convert (Expr.chain .row path)) path

/-- The projections and their columns: an item, or a record of at least one item. -/
inductive IsProjection : Expr → List ColumnPath → Prop
  | item {e path} (h : IsItem e path) : IsProjection e [path]
  | record {items paths} (hne : items ≠ []) (h : List.Forall₂ IsItem items paths) :
      IsProjection (.record items) paths

/-- The items of an expression: those of a record, or the expression alone. A record without items
is an item of its own. -/
def items : Expr → List Expr
  | .record (e :: es) => e :: es
  | e => [e]

/-- A chain of members that does not start at the row. -/
def IsStray (e : Expr) : Prop :=
  ∃ root names, root.IsRoot ∧ root ≠ .row ∧ names ≠ [] ∧ e = chain root names

/-- The error of a bad item. A stray chain is shown, also if it stands in one conversion; of
anything else that is no item the whole is shown. -/
inductive Misnames : Expr → Error → Prop
  | stray {e} (h : e.IsStray) : Misnames e (.unsupportedMember e.display)
  | convertedStray {e} (h : e.IsStray) : Misnames (.convert e) (.unsupportedMember e.display)
  | shape {e} (hroot : e.IsRoot) (hconvert : ∀ target name, e ≠ .convert (.member target name)) :
      Misnames e (.unsupportedProjection e.display)

/-! ### Chains -/

section Chains

variable {e target : Expr} {name : String} {path : ColumnPath} {error : Error}

theorem isStray_member_iff :
    IsStray (.member target name) ↔ memberPath? (.member target name) = none := by
  constructor
  · rintro ⟨root, names, hroot, hrow, -, he⟩
    rw [he]
    exact memberPath?_chain_eq_none hroot (.inl hrow)
  · intro h
    obtain ⟨root, names, hroot, he⟩ := exists_root (.member target name)
    have hne : names ≠ [] := by
      rintro rfl
      exact hroot target name he.symm
    refine ⟨root, names, hroot, ?_, hne, he⟩
    rintro rfl
    rw [memberPath?_eq_some_iff.mpr ⟨hne, he⟩] at h
    cases h

theorem memberPath_eq_ok_iff : memberPath e = .ok path ↔ path ≠ [] ∧ e = chain .row path := by
  rw [← memberPath?_eq_some_iff, memberPath]
  cases memberPath? e <;> simp

theorem memberPath_member_eq_error_iff : memberPath (.member target name) = .error error ↔
    IsStray (.member target name) ∧ error = .unsupportedMember (display (.member target name)) := by
  rw [isStray_member_iff, memberPath]
  cases memberPath? (.member target name) <;> simp [eq_comm]

theorem IsStray.exists_eq_member (h : e.IsStray) : ∃ target name, e = .member target name := by
  obtain ⟨root, names, -, -, hne, rfl⟩ := h
  exact Expr.exists_eq_member root hne

end Chains

/-! ### Items -/

section Items

variable {e : Expr} {path : ColumnPath} {error : Error}

/-- An item gives the column that it names. -/
theorem projectedColumn_eq_ok_iff : e.projectedColumn = .ok path ↔ e.IsItem path := by
  constructor
  · fun_cases projectedColumn e with
    | case1 target name =>
        intro h
        obtain ⟨hne, he⟩ := memberPath_eq_ok_iff.mp h
        exact he ▸ .chain hne
    | case2 target name =>
        intro h
        obtain ⟨hne, he⟩ := memberPath_eq_ok_iff.mp h
        exact he ▸ .converted hne
    | case3 => exact fun h => nomatch h
  · intro h
    cases h with
    | chain hne | converted hne =>
        have hpath := memberPath_eq_ok_iff.mpr ⟨hne, rfl⟩
        obtain ⟨target, name, he⟩ := exists_eq_member .row hne
        rw [he] at hpath ⊢
        exact hpath

/-- A bad item gives its error. -/
theorem projectedColumn_eq_error_iff : e.projectedColumn = .error error ↔ e.Misnames error := by
  constructor
  · fun_cases projectedColumn e with
    | case1 target name =>
        intro h
        obtain ⟨hstray, rfl⟩ := memberPath_member_eq_error_iff.mp h
        exact .stray hstray
    | case2 target name =>
        intro h
        obtain ⟨hstray, rfl⟩ := memberPath_member_eq_error_iff.mp h
        exact .convertedStray hstray
    | case3 e hmember hconvert =>
        intro h
        cases h
        exact .shape hmember hconvert
  · intro h
    cases h with
    | stray h | convertedStray h =>
        obtain ⟨target, name, rfl⟩ := h.exists_eq_member
        exact memberPath_member_eq_error_iff.mpr ⟨h, rfl⟩
    | shape hroot hconvert =>
        unfold projectedColumn
        split
        · next target name => exact absurd rfl (hroot target name)
        · next target name => exact absurd rfl (hconvert target name)
        · rfl

theorem exists_misnames_iff : (∃ error, e.Misnames error) ↔ ¬ ∃ path, e.IsItem path := by
  simp only [← projectedColumn_eq_ok_iff, ← projectedColumn_eq_error_iff]
  cases e.projectedColumn <;> simp

theorem not_isItem_record (es : List Expr) : ¬ IsItem (.record es) path := by
  rw [← projectedColumn_eq_ok_iff]
  exact fun h => nomatch h

end Items

/-! ### Projections -/

section Projections

variable {p : Expr} {paths : List ColumnPath}

theorem projectedItems_eq_mapM (es : List Expr) : projectedItems es = es.mapM projectedColumn := by
  induction es with
  | nil => rfl
  | cons e es ih =>
      rw [projectedItems, List.mapM_cons, ih]
      rfl

/-- An expression is projected item by item. -/
theorem projectedColumns_eq_mapM (p : Expr) :
    p.projectedColumns = p.items.mapM projectedColumn := by
  fun_cases items p with
  | case1 e es => exact projectedItems_eq_mapM (e :: es)
  | case2 p hrecord =>
      rw [projectedColumns, List.mapM_cons, List.mapM_nil]
      · cases p.projectedColumn <;> rfl
      · exact hrecord

/-- The projections are the expressions whose items are items of the grammar. -/
theorem isProjection_iff : p.IsProjection paths ↔ List.Forall₂ IsItem p.items paths := by
  constructor
  · intro h
    cases h with
    | item h =>
        fun_cases items p with
        | case1 e es => exact absurd h (not_isItem_record _)
        | case2 => exact .cons h .nil
    | @record es paths hne h =>
        cases es with
        | nil => exact absurd rfl hne
        | cons e es => exact h
  · fun_cases items p with
    | case1 e es => exact .record (List.cons_ne_nil e es)
    | case2 p hrecord =>
        intro h
        obtain ⟨path, rest, hitem, hrest, rfl⟩ := List.forall₂_cons_left_iff.mp h
        cases hrest
        exact .item hitem

/-- A projection gives its columns, one for each item in its place, and they are written with dots
between their names. Any other expression is refused with the error of its first bad item. -/
theorem projectedColumns_names_or_reports (p : Expr) :
    (∀ paths, p.projectedColumns = .ok paths ↔ p.IsProjection paths) ∧
    (∀ texts, p.projectedColumns.map (·.map columnText) = .ok texts ↔
      ∃ paths, p.IsProjection paths ∧ texts = paths.map fun path => ".".intercalate path) ∧
    ∀ error, p.projectedColumns = .error error ↔
      ∃ i item, IsFirstAt (fun item => ¬ ∃ path, item.IsItem path) p.items i item ∧
        item.Misnames error := by
  have hok (paths) : p.projectedColumns = .ok paths ↔ p.IsProjection paths := by
    rw [projectedColumns_eq_mapM, mapM_eq_ok_iff, isProjection_iff]
    simp only [projectedColumn_eq_ok_iff]
  refine ⟨hok, fun texts => ?_, fun error => ?_⟩
  · rw [map_eq_ok_iff]
    simp only [hok, eq_comm (b := texts)]
    rfl
  · rw [projectedColumns_eq_mapM, mapM_eq_error_iff, IsFirstError]
    simp only [projectedColumn_eq_error_iff, exists_misnames_iff]

/-- Two conversions around a column are one too many. -/
example : projectedColumns (.record [.convert (field "id"), .convert (.convert (field "age"))]) =
    .error (.unsupportedProjection "convert(convert(row.age))") := by
  rfl

end Projections

end Expr

end EntitySql
