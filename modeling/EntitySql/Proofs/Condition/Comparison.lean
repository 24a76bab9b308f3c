import EntitySql.Query.Condition
import EntitySql.Proofs.Expr.Chain
import EntitySql.Proofs.Result
import EntitySql.Proofs.Text.Token

/-!
# The comparisons of a predicate

A predicate is a tree of connectives over comparisons. The left side of a comparison is a chain of
members of the row, its right side defers a name or stands for a literal; conversions around either
side do not count.

## Main definitions

* `Expr.unconverted` : an expression without the conversions around it.
* `Expr.IsColumnOf` : the column that a left side names.
* `Expr.deferred?`, `Expr.literal?` : the name that a right side defers, the value that it denotes.
* `Expr.collect` : what the comparisons of a predicate contribute, from left to right.
* `Expr.columnNames`, `Expr.deferredNames` : the names in the columns of a predicate, and the names
  that it defers.

## Main results

* `Expr.literal?_eq_some_iff` : the right sides that denote a value.
* `Expr.column_eq_ok_iff`, `Operand.ofExpr_eq_placeholder_iff`, `Operand.ofExpr_eq_literal_iff` :
  when a side of a comparison is accepted, and as what.
* `Condition.ofExpr_induction` : induction over the predicates that are accepted.
* `Condition.occurrences_ofExpr` : the placeholders of a condition are what its predicate defers.
-/

namespace EntitySql

open Text

/-! ### Tokens of a comparison -/

theorem isToken_columnText {path : ColumnPath} (h : ∀ name ∈ path, IsDotted name) :
    IsToken (columnText path).toList :=
  IsToken.intercalate (by decide) fun name hname => (h name hname).isToken

theorem Comparison.isToken_sql (c : Comparison) : IsToken c.sql.toList := by
  cases c <;> decide

/-! ### The sides of a comparison -/

namespace Expr

/-- An expression without the conversions around it. -/
def unconverted : Expr → Expr
  | .convert e => unconverted e
  | e => e

/-- A chain with names is no conversion. -/
theorem unconverted_chain {root : Expr} {names : List String} (h : names ≠ []) :
    (chain root names).unconverted = chain root names := by
  obtain ⟨target, name, hmember⟩ := exists_eq_member root h
  rw [hmember]
  rfl

/-- The name that a right side defers: that of a parameter or of a direct member of the row. -/
def deferred? : Expr → Option String
  | .param name => some name
  | .member .row name => some name
  | _ => none

/-- The value that a right side denotes: that of a constant, or the one that the names of a chain
lead to from a captured environment. -/
def literal? (e : Expr) : Option Value :=
  match e.unchained with
  | (.constant v, []) => some v
  | (.captured env, names) => env.valueAt? names
  | _ => none

/-- The column that a left side names: the names of a chain on the row. -/
def IsColumnOf (e : Expr) (path : ColumnPath) : Prop :=
  path ≠ [] ∧ e.unconverted = chain .row path

variable {e : Expr} {path other : ColumnPath} {v : Value}

theorem IsColumnOf.unique (h : e.IsColumnOf path) (h' : e.IsColumnOf other) : path = other :=
  (chain_inj isRoot_row isRoot_row (h.2.symm.trans h'.2)).2

theorem IsColumnOf.unchained_eq (h : e.IsColumnOf path) :
    e.unconverted.unchained = (.row, path) := by
  rw [h.2, unchained_chain isRoot_row]

theorem column_eq_ok_iff : e.column = .ok path ↔ e.IsColumnOf path := by
  rw [IsColumnOf, ← memberPath?_eq_some_iff]
  fun_induction unconverted e with
  | case1 e ih => simpa [column] using ih
  | case2 e hne =>
      cases e with
      | member target name =>
          simp only [column, memberPath]
          split <;> simp_all
      | convert e => exact absurd rfl (hne e)
      | _ => simp [column, memberPath?]

/-- A value is denoted by a constant, and by a chain on a captured environment whose names lead to
it. -/
theorem literal?_eq_some_iff : e.literal? = some v ↔ e = .constant v ∨
    ∃ env names, env.Leads names (.value v) ∧ e = chain (.captured env) names := by
  constructor
  · intro h
    obtain ⟨root, names, hroot, rfl⟩ := exists_root e
    rw [literal?, unchained_chain hroot] at h
    split at h
    · next heq =>
        cases heq
        cases h
        exact .inl rfl
    · next env _ heq =>
        cases heq
        exact .inr ⟨env, names, Environment.valueAt?_eq_some_iff.mp h, rfl⟩
    · cases h
  · rintro (rfl | ⟨env, names, h, rfl⟩)
    · rfl
    · rw [literal?, unchained_chain (isRoot_captured env)]
      exact Environment.valueAt?_eq_some_iff.mpr h

theorem literal?_chain {env : Environment} {names : List String} (h : env.Leads names (.value v)) :
    (chain (.captured env) names).literal? = some v :=
  literal?_eq_some_iff.mpr (.inr ⟨env, names, h, rfl⟩)

/-- A member denotes what the variable holds to which the chain leads. -/
theorem literal?_member_eq_some_iff {target : Expr} {name : String} :
    literal? (.member target name) = some v ↔ slot? (.member target name) = some (.value v) := by
  rw [literal?_eq_some_iff, slot?_eq_some_iff]
  simp

end Expr

theorem Operand.ofExpr_unconverted (e : Expr) : ofExpr e.unconverted = ofExpr e := by
  fun_induction Expr.unconverted e with
  | case1 e ih => exact ih
  | case2 e => rfl

/-- A right side that is not converted is a placeholder exactly for the name that it defers, and a
literal exactly of the value that it denotes. -/
private theorem Operand.ofExpr_eq_iff_of_unconverted {e : Expr} (he : ∀ e', e ≠ .convert e') :
    (∀ name, ofExpr e = .ok (.placeholder name) ↔ e.deferred? = some name) ∧
      ∀ v, ofExpr e = .ok (.literal v) ↔ e.literal? = some v := by
  cases e with
  | convert e => exact absurd rfl (he e)
  | member target name =>
      simp only [Expr.literal?_member_eq_some_iff]
      cases target with
      | row => simp [ofExpr, Expr.deferred?, Expr.slot?]
      | _ =>
          simp only [ofExpr, Expr.deferred?]
          split <;> simp_all
  | _ => simp [ofExpr, Expr.deferred?, Expr.literal?, Expr.unchained, Environment.valueAt?]

theorem Expr.unconverted_ne_convert (e e' : Expr) : e.unconverted ≠ .convert e' := by
  fun_induction unconverted e with
  | case1 e ih => exact ih
  | case2 e hne => exact hne e'

theorem Operand.ofExpr_eq_placeholder_iff {e : Expr} {name : String} :
    ofExpr e = .ok (.placeholder name) ↔ e.unconverted.deferred? = some name := by
  rw [← ofExpr_unconverted]
  exact (ofExpr_eq_iff_of_unconverted e.unconverted_ne_convert).1 name

theorem Operand.ofExpr_eq_literal_iff {e : Expr} {v : Value} :
    ofExpr e = .ok (.literal v) ↔ e.unconverted.literal? = some v := by
  rw [← ofExpr_unconverted]
  exact (ofExpr_eq_iff_of_unconverted e.unconverted_ne_convert).2 v

theorem Operand.placeholders_ofExpr (operand : Operand) {e : Expr} (h : ofExpr e = .ok operand) :
    e.unconverted.deferred?.toList = operand.placeholders := by
  cases operand with
  | placeholder name => rw [ofExpr_eq_placeholder_iff.mp h]; rfl
  | literal v =>
      cases hd : e.unconverted.deferred? with
      | none => rfl
      | some name => cases h.symm.trans (ofExpr_eq_placeholder_iff.mpr hd)

/-! ### Accepted predicates -/

theorem BinaryOp.comparison_eq_ok_iff {op : BinaryOp} {c : Comparison} :
    op.comparison = .ok c ↔ op.comparison? = some c := by
  unfold comparison
  split <;> simp_all

/-- Induction over the predicates that are accepted, along the conditions that they describe. -/
theorem Condition.ofExpr_induction {motive : Expr → Condition → Prop}
    (and : ∀ {lhs rhs left right}, motive lhs left → motive rhs right →
      motive (.binary .andAlso lhs rhs) (.and left right))
    (or : ∀ {lhs rhs left right}, motive lhs left → motive rhs right →
      motive (.binary .orElse lhs rhs) (.or left right))
    (compare : ∀ {op comparison lhs rhs path operand}, op.comparison? = some comparison →
      lhs.IsColumnOf path → Operand.ofExpr rhs = .ok operand →
      motive (.binary op lhs rhs) (.compare path comparison operand))
    {p : Expr} {c : Condition} (h : ofExpr p = .ok c) : motive p c := by
  fun_induction ofExpr p generalizing c with
  | case1 lhs rhs ihl ihr =>
      obtain ⟨left, hl, h⟩ := bind_eq_ok_iff.mp h
      obtain ⟨right, hr, h⟩ := bind_eq_ok_iff.mp h
      cases h
      exact and (ihl hl) (ihr hr)
  | case2 lhs rhs ihl ihr =>
      obtain ⟨left, hl, h⟩ := bind_eq_ok_iff.mp h
      obtain ⟨right, hr, h⟩ := bind_eq_ok_iff.mp h
      cases h
      exact or (ihl hl) (ihr hr)
  | case3 op lhs rhs hand hor =>
      obtain ⟨comparison, hop, h⟩ := bind_eq_ok_iff.mp h
      obtain ⟨path, hl, h⟩ := bind_eq_ok_iff.mp h
      obtain ⟨operand, hr, h⟩ := bind_eq_ok_iff.mp h
      cases h
      exact compare (BinaryOp.comparison_eq_ok_iff.mp hop) (Expr.column_eq_ok_iff.mp hl) hr
  | case4 => cases h

/-! ### What comparisons contribute -/

namespace Expr

variable {α : Type}

/-- What the comparisons of a predicate contribute, from left to right. -/
def collect (f : Expr → Expr → List α) : Expr → List α
  | .binary .andAlso lhs rhs | .binary .orElse lhs rhs => collect f lhs ++ collect f rhs
  | .binary _ lhs rhs => f lhs rhs
  | _ => []

theorem collect_compare (f : Expr → Expr → List α) {op : BinaryOp} {c : Comparison}
    (hop : op.comparison? = some c) (lhs rhs : Expr) :
    collect f (.binary op lhs rhs) = f lhs rhs := by
  cases op with
  | andAlso | orElse => cases hop
  | _ => rfl

/-- The names in the columns on the left sides. -/
def columnNames : Expr → List String :=
  collect fun lhs _ => lhs.unconverted.unchained.2

/-- The names that the right sides defer. -/
def deferredNames : Expr → List String :=
  collect fun _ rhs => rhs.unconverted.deferred?.toList

end Expr

/-- The names that the placeholders of a condition have are those that its predicate defers. -/
theorem Condition.occurrences_ofExpr {p : Expr} {c : Condition} (h : ofExpr p = .ok c) :
    c.occurrences = p.deferredNames := by
  refine ofExpr_induction (motive := fun p c => c.occurrences = p.deferredNames)
    ?and ?or ?compare h
  case and | or =>
    intro lhs rhs left right ihl ihr
    simp [occurrences, ihl, ihr, Expr.deferredNames, Expr.collect]
  case compare =>
    intro op comparison lhs rhs path operand hop hl hr
    rw [Expr.deferredNames, Expr.collect_compare _ hop, operand.placeholders_ofExpr hr]
    rfl

end EntitySql
