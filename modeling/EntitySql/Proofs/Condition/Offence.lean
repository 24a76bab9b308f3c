import EntitySql.Proofs.Condition.Comparison
import EntitySql.Proofs.Expr.Chain

/-!
# The grammar of predicates and the first offence

The predicates that have a meaning in SQL form a small grammar. Whatever else an expression is, it
is refused at a place: each place of the expression is looked at in the order in which it is
written, and the first one where the grammar is broken gives the error.

## Main definitions

* `Expr.IsColumn`, `Expr.IsOperand`, `Expr.IsPredicate` : the grammar.
* `Expr.places` : the places of an expression, in order.
* `Place.Offends` : the error that a place gives, if the grammar is broken there.
* `FirstOffence` : the error of the first place where the grammar is broken.

## Main results

* `Expr.isColumn_iff`, `Expr.isOperand_iff` : the sides of a comparison that are accepted.
* `reports_ofExpr` : an expression is refused with its first offence only.
* `Condition.ofExpr_accepts_or_reports` : the predicates of the grammar are accepted, and any other
  expression is refused with its first offence.
-/

namespace EntitySql

/-! ### The grammar -/

namespace BinaryOp

/-- The six operators that compare. -/
def Compares : BinaryOp → Prop
  | equal | notEqual | lessThan | lessThanOrEqual | greaterThan | greaterThanOrEqual => True
  | _ => False

/-- The operators of arithmetic and those on bits. -/
def IsArithmetic : BinaryOp → Prop
  | add | subtract | multiply | divide | modulo | bitAnd | bitOr | bitXor => True
  | _ => False

end BinaryOp

namespace Expr

/-- The left sides of comparisons: a chain of members of the row, in any number of conversions. -/
inductive IsColumn : Expr → Prop
  | chain {names} (h : names ≠ []) : IsColumn (chain .row names)
  | convert {e} (h : IsColumn e) : IsColumn (.convert e)

/-- The right sides of comparisons, in any number of conversions: a constant, a parameter, a direct
member of the row, or a chain that leads from a captured environment to a value. -/
inductive IsOperand : Expr → Prop
  | constant (v : Value) : IsOperand (.constant v)
  | param (name : String) : IsOperand (.param name)
  | member (name : String) : IsOperand (.member .row name)
  | captured {env names v} (h : Environment.Leads env names (.value v)) :
      IsOperand (Expr.chain (.captured env) names)
  | convert {e} (h : IsOperand e) : IsOperand (.convert e)

/-- The predicates: comparisons, and two predicates connected by AND or OR. -/
inductive IsPredicate : Expr → Prop
  | andAlso {lhs rhs} (hl : IsPredicate lhs) (hr : IsPredicate rhs) :
      IsPredicate (.binary .andAlso lhs rhs)
  | orElse {lhs rhs} (hl : IsPredicate lhs) (hr : IsPredicate rhs) :
      IsPredicate (.binary .orElse lhs rhs)
  | compare {op : BinaryOp} {lhs rhs} (hop : op.Compares) (hl : IsColumn lhs)
      (hr : IsOperand rhs) : IsPredicate (.binary op lhs rhs)

/-- The error of a side that is refused, by its node without conversions: a chain of members is
shown, any other node is named. -/
def refusal : Expr → Error
  | .member target name => .unsupportedMember (display (.member target name))
  | e => .unsupportedExpression e.kind

end Expr

/-! ### Offences -/

/-- A place of an expression where something is expected. -/
inductive Place where
  /-- A connective or a comparison is expected, and another node stands there. -/
  | node (e : Expr)
  | operator (op : BinaryOp)
  | left (e : Expr)
  | right (e : Expr)

/-- The places of an expression in the order in which it is written, but for the operator of a
comparison, which stands before both sides. -/
def Expr.places : Expr → List Place
  | .binary .andAlso lhs rhs | .binary .orElse lhs rhs => places lhs ++ places rhs
  | .binary op lhs rhs => [.operator op, .left lhs, .right rhs]
  | e => [.node e]

/-- The error that a place gives, if what stands there breaks the grammar. -/
inductive Place.Offends : Place → Error → Prop
  | node (e : Expr) : Offends (.node e) (.unsupportedExpression e.kind)
  | operator {op : BinaryOp} (h : op.IsArithmetic) :
      Offends (.operator op) (.unsupportedOperator op.name)
  | left {e : Expr} (h : ¬ e.IsColumn) : Offends (.left e) e.unconverted.refusal
  | right {e : Expr} (h : ¬ e.IsOperand) : Offends (.right e) e.unconverted.refusal

/-- The error of the first of several places where the grammar is broken. -/
inductive FirstOffence : List Place → Error → Prop
  | here {place places error} (h : place.Offends error) : FirstOffence (place :: places) error
  | later {place places error} (hclean : ∀ e, ¬ place.Offends e) (h : FirstOffence places error) :
      FirstOffence (place :: places) error

namespace FirstOffence

variable {places others : List Place} {error other : Error}

theorem unique (h : FirstOffence places error) (h' : FirstOffence places other) :
    error = other := by
  induction h with
  | here h =>
      cases h' with
      | here h' => cases h <;> cases h' <;> rfl
      | later hclean => exact absurd h (hclean _)
  | later hclean _ ih =>
      cases h' with
      | here h' => exact absurd h' (hclean _)
      | later _ h' => exact ih h'

theorem exists_mem (h : FirstOffence places error) : ∃ place ∈ places, place.Offends error := by
  induction h with
  | here h => exact ⟨_, List.mem_cons_self, h⟩
  | later _ _ ih =>
      obtain ⟨place, hplace, h⟩ := ih
      exact ⟨place, List.mem_cons_of_mem _ hplace, h⟩

theorem append_right (h : FirstOffence places error) (others : List Place) :
    FirstOffence (places ++ others) error := by
  induction h with
  | here h => exact here h
  | later hclean _ ih => exact later hclean ih

theorem append_left (hclean : ∀ place ∈ places, ∀ e, ¬ place.Offends e)
    (h : FirstOffence others error) : FirstOffence (places ++ others) error := by
  induction places with
  | nil => exact h
  | cons place places ih =>
      rw [List.forall_mem_cons] at hclean
      exact later hclean.1 (ih hclean.2)

end FirstOffence

/-- A result succeeds if no place offends, and is otherwise the error of the first place that
does. -/
inductive Reports {α : Type} (places : List Place) : Except Error α → Prop
  | ok (a : α) (hclean : ∀ place ∈ places, ∀ e, ¬ place.Offends e) : Reports places (.ok a)
  | error {e} (h : FirstOffence places e) : Reports places (.error e)

namespace Reports

variable {α β : Type} {places others : List Place} {x : Except Error α}

theorem nil (a : α) : Reports [] (.ok a) :=
  ok a fun _ h => absurd h List.not_mem_nil

/-- A step that looks at one place. -/
theorem single {place : Place} (hok : ∀ a, x = .ok a → ∀ e, ¬ place.Offends e)
    (herror : ∀ e, x = .error e → place.Offends e) : Reports [place] x := by
  cases x with
  | ok a => exact ok a (List.forall_mem_singleton.mpr (hok a rfl))
  | error e => exact error (.here (herror e rfl))

/-- Two steps one after the other look at the places of the first step before those of the
second. -/
theorem bind {f : α → Except Error β} (hx : Reports places x)
    (hf : ∀ a, Reports others (f a)) : Reports (places ++ others) (x >>= f) := by
  cases hx with
  | error h => exact error (h.append_right others)
  | ok a hclean =>
      change Reports (places ++ others) (f a)
      have hnext := hf a
      generalize f a = y at hnext ⊢
      cases hnext with
      | error h => exact error (h.append_left hclean)
      | ok b hclean' => exact ok b (List.forall_mem_append.mpr ⟨hclean, hclean'⟩)

theorem eq_error_iff (hx : Reports places x) {e : Error} :
    x = .error e ↔ FirstOffence places e := by
  cases hx with
  | error h => exact ⟨fun he => Except.error.inj he ▸ h, fun h' => by rw [h.unique h']⟩
  | ok a hclean =>
      refine ⟨fun he => (by cases he), fun h => ?_⟩
      obtain ⟨place, hplace, hoffends⟩ := h.exists_mem
      exact absurd hoffends (hclean place hplace e)

end Reports

/-! ### Operators -/

namespace BinaryOp

theorem exists_comparison?_iff {op : BinaryOp} : (∃ c, op.comparison? = some c) ↔ op.Compares := by
  cases op <;> simp [comparison?, Compares]

theorem isArithmetic_of_comparison?_eq_none {op : BinaryOp} (h : op.comparison? = none)
    (hand : op ≠ .andAlso) (hor : op ≠ .orElse) : op.IsArithmetic := by
  cases op <;> simp_all [comparison?, IsArithmetic]

/-- An operator that is no connective either compares or is one of arithmetic or on bits. -/
theorem reports_comparison {op : BinaryOp} (hand : op ≠ .andAlso) (hor : op ≠ .orElse) :
    Reports [.operator op] op.comparison := by
  refine .single (fun c h _ hoffends => ?_) fun error h => ?_
  · have hcompares : op.Compares := exists_comparison?_iff.mp ⟨c, comparison_eq_ok_iff.mp h⟩
    cases hoffends with
    | operator harith => cases op <;> first | exact harith | exact hcompares
  · rw [comparison] at h
    split at h
    · cases h
    · next hop =>
        cases h
        exact .operator (isArithmetic_of_comparison?_eq_none hop hand hor)

end BinaryOp

/-! ### The sides of a comparison -/

namespace Expr

variable {e : Expr}

theorem isColumn_iff : e.IsColumn ↔ ∃ path, e.column = .ok path := by
  constructor
  · intro h
    induction h with
    | @chain names hne => exact ⟨names, column_eq_ok_iff.mpr ⟨hne, unconverted_chain hne⟩⟩
    | convert _ ih => exact ih
  · rintro ⟨path, h⟩
    obtain ⟨hne, he⟩ := column_eq_ok_iff.mp h
    fun_induction unconverted e with
    | case1 e ih => exact .convert (ih h he)
    | case2 e => exact he ▸ .chain hne

theorem refusal_of_column_eq_error {error : Error} (h : e.column = .error error) :
    error = e.unconverted.refusal := by
  fun_induction column e with
  | case1 target name =>
      rw [memberPath] at h
      split at h
      · cases h
      · exact (Except.error.inj h).symm
  | case2 e ih => exact ih h
  | case3 e hmember hconvert => cases e <;> simp_all [unconverted, refusal]

theorem reports_column (e : Expr) : Reports [.left e] e.column := by
  refine .single (fun path h _ hoffends => ?_) fun error h => ?_
  · cases hoffends with
    | left hnot => exact hnot (isColumn_iff.mpr ⟨path, h⟩)
  · rw [refusal_of_column_eq_error h]
    refine .left fun hcolumn => ?_
    obtain ⟨path, hpath⟩ := isColumn_iff.mp hcolumn
    cases hpath.symm.trans h

theorem isOperand_iff : e.IsOperand ↔ ∃ operand, Operand.ofExpr e = .ok operand := by
  constructor
  · intro h
    induction h with
    | constant | param | member => exact ⟨_, rfl⟩
    | @captured env names v h =>
        refine ⟨.literal v, Operand.ofExpr_eq_literal_iff.mpr ?_⟩
        rw [unconverted_chain h.ne_nil, literal?_chain h]
    | convert _ ih => exact ih
  · rintro ⟨operand, h⟩
    fun_induction Operand.ofExpr e with
    | case1 v => exact .constant v
    | case2 name => exact .param name
    | case3 e ih => exact .convert (ih h)
    | case4 name => exact .member name
    | case5 target name _ v hslot =>
        obtain ⟨env, names, hleads, he⟩ := slot?_eq_some_iff.mp hslot
        rw [he]
        exact .captured hleads
    | case6 => cases h
    | case7 => cases h

theorem refusal_of_operand_eq_error {error : Error} (h : Operand.ofExpr e = .error error) :
    error = e.unconverted.refusal := by
  fun_induction Operand.ofExpr e with
  | case3 e ih => exact ih h
  | case6 => exact (Except.error.inj h).symm
  | case7 e => cases e <;> simp_all [unconverted, refusal]
  | _ => cases h

theorem reports_operand (e : Expr) : Reports [.right e] (Operand.ofExpr e) := by
  refine .single (fun operand h _ hoffends => ?_) fun error h => ?_
  · cases hoffends with
    | right hnot => exact hnot (isOperand_iff.mpr ⟨operand, h⟩)
  · rw [refusal_of_operand_eq_error h]
    refine .right fun hoperand => ?_
    obtain ⟨operand, hok⟩ := isOperand_iff.mp hoperand
    cases hok.symm.trans h

end Expr

/-! ### Predicates -/

/-- An expression is refused with its first offence only. -/
theorem reports_ofExpr (p : Expr) : Reports p.places (Condition.ofExpr p) := by
  fun_induction Condition.ofExpr p with
  | case1 lhs rhs ihl ihr =>
      exact ihl.bind fun left => by
        simpa using ihr.bind fun right => Reports.nil (Condition.and left right)
  | case2 lhs rhs ihl ihr =>
      exact ihl.bind fun left => by
        simpa using ihr.bind fun right => Reports.nil (Condition.or left right)
  | case3 op lhs rhs hand hor =>
      have hplaces : (Expr.binary op lhs rhs).places = [.operator op, .left lhs, .right rhs] := by
        cases op <;> first | rfl | exact absurd rfl hand | exact absurd rfl hor
      rw [hplaces]
      exact (BinaryOp.reports_comparison hand hor).bind fun comparison =>
        (Expr.reports_column lhs).bind fun column =>
          (Expr.reports_operand rhs).bind fun operand => Reports.nil _
  | case4 e hand hor hop =>
      have hplaces : e.places = [.node e] := by
        cases e with
        | binary op lhs rhs => exact absurd rfl (hop op lhs rhs)
        | _ => rfl
      rw [hplaces]
      exact .error (.here (.node e))

theorem Condition.ofExpr_compare {op : BinaryOp} {comparison : Comparison} {lhs rhs : Expr}
    {path : ColumnPath} {operand : Operand} (hop : op.comparison? = some comparison)
    (hl : lhs.column = .ok path) (hr : Operand.ofExpr rhs = .ok operand) :
    ofExpr (.binary op lhs rhs) = .ok (.compare path comparison operand) := by
  have hand : op ≠ .andAlso := by rintro rfl; cases hop
  have hor : op ≠ .orElse := by rintro rfl; cases hop
  rw [ofExpr, BinaryOp.comparison_eq_ok_iff.mpr hop, hl, hr]
  · rfl
  · exact hand
  · exact hor

/-- The predicates of the grammar are those that are accepted. -/
theorem Expr.isPredicate_iff {p : Expr} : p.IsPredicate ↔ ∃ c, Condition.ofExpr p = .ok c := by
  constructor
  · intro h
    induction h with
    | andAlso _ _ ihl ihr =>
        obtain ⟨left, hl⟩ := ihl
        obtain ⟨right, hr⟩ := ihr
        exact ⟨.and left right, by rw [Condition.ofExpr, hl, hr]; rfl⟩
    | orElse _ _ ihl ihr =>
        obtain ⟨left, hl⟩ := ihl
        obtain ⟨right, hr⟩ := ihr
        exact ⟨.or left right, by rw [Condition.ofExpr, hl, hr]; rfl⟩
    | compare hop hl hr =>
        obtain ⟨comparison, hop⟩ := BinaryOp.exists_comparison?_iff.mpr hop
        obtain ⟨path, hl⟩ := isColumn_iff.mp hl
        obtain ⟨operand, hr⟩ := isOperand_iff.mp hr
        exact ⟨_, Condition.ofExpr_compare hop hl hr⟩
  · rintro ⟨c, h⟩
    refine Condition.ofExpr_induction (motive := fun p _ => p.IsPredicate) .andAlso .orElse ?_ h
    intro op comparison lhs rhs path operand hop hl hr
    exact .compare (BinaryOp.exists_comparison?_iff.mp ⟨_, hop⟩)
      (isColumn_iff.mpr ⟨_, column_eq_ok_iff.mpr hl⟩) (isOperand_iff.mpr ⟨_, hr⟩)

/-- The predicates of the grammar are accepted, and any other expression is refused with its first
offence. -/
theorem Condition.ofExpr_accepts_or_reports (p : Expr) :
    ((∃ c, Condition.ofExpr p = .ok c) ↔ p.IsPredicate) ∧
      ∀ error, Condition.ofExpr p = .error error ↔ FirstOffence p.places error :=
  ⟨Expr.isPredicate_iff.symm, fun _ => (reports_ofExpr p).eq_error_iff⟩

end EntitySql
