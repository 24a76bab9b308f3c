import EntitySql.Proofs.Condition.Offence
import EntitySql.Proofs.Expr.Capturing
import EntitySql.Proofs.Query.Bindings

/-!
# Plain predicates

A predicate is plain if it has no conversions and no captured variables. Every accepted predicate
has a plain form, in which the conversions around the sides of its comparisons are dropped and each
captured variable is replaced by the constant that it stands for. Both are compiled to the same
statement, so nothing of an environment counts but what the predicate names.

## Main definitions

* `Expr.PlainForm` : the plain form of a predicate.
* `Expr.recaptured` : an expression with its environments replaced.
* `Expr.KeepsVariables` : other environments with the variables that a predicate names.

## Main results

* `Expr.IsPredicate.exists_plainForm`, `Expr.PlainForm.unique` : an accepted predicate has one plain
  form.
* `Expr.PlainForm.ofExpr_eq` : a plain form describes the condition of the predicate.
* `Expr.PlainForm.recaptured` : environments may be replaced if the named variables stay.
* `compileSelect_plainForm` : the statement of a plain form.
-/

namespace EntitySql

namespace Expr

/-! ### Plain forms -/

/-- The plain form of a left side: the chain of members of the row within the conversions. -/
inductive PlainColumn : Expr → Expr → Prop
  | chain {names} (h : names ≠ []) : PlainColumn (chain .row names) (chain .row names)
  | convert {e e'} (h : PlainColumn e e') : PlainColumn (.convert e) e'

/-- The plain form of a right side: what stands within the conversions, and for a captured variable
the constant that its names lead to. -/
inductive PlainOperand : Expr → Expr → Prop
  | constant (v : Value) : PlainOperand (.constant v) (.constant v)
  | param (name : String) : PlainOperand (.param name) (.param name)
  | member (name : String) : PlainOperand (.member .row name) (.member .row name)
  | captured {env names v} (h : Environment.Leads env names (.value v)) :
      PlainOperand (Expr.chain (.captured env) names) (.constant v)
  | convert {e e'} (h : PlainOperand e e') : PlainOperand (.convert e) e'

/-- The plain form of a predicate: the same connectives and operators over the plain forms of the
sides. -/
inductive PlainForm : Expr → Expr → Prop
  | andAlso {lhs rhs lhs' rhs'} (hl : PlainForm lhs lhs') (hr : PlainForm rhs rhs') :
      PlainForm (.binary .andAlso lhs rhs) (.binary .andAlso lhs' rhs')
  | orElse {lhs rhs lhs' rhs'} (hl : PlainForm lhs lhs') (hr : PlainForm rhs rhs') :
      PlainForm (.binary .orElse lhs rhs) (.binary .orElse lhs' rhs')
  | compare {op : BinaryOp} {lhs rhs lhs' rhs'} (hop : op.Compares) (hl : PlainColumn lhs lhs')
      (hr : PlainOperand rhs rhs') : PlainForm (.binary op lhs rhs) (.binary op lhs' rhs')

variable {e e' p q r : Expr}

/-! ### One plain form -/

theorem PlainColumn.eq_unconverted (h : PlainColumn e e') : e' = e.unconverted := by
  induction h with
  | chain h => exact (unconverted_chain h).symm
  | convert _ ih => exact ih

/-- The plain form of a right side is found from the value that it denotes, if there is one. -/
theorem PlainOperand.eq_unconverted (h : PlainOperand e e') :
    e' = (e.unconverted.literal?.map Expr.constant).getD e.unconverted := by
  induction h with
  | constant | param | member => rfl
  | captured h =>
      rw [unconverted_chain h.ne_nil, literal?_chain h, Option.map_some, Option.getD_some]
  | convert _ ih => exact ih

theorem PlainForm.unique (h : p.PlainForm q) (h' : p.PlainForm r) : q = r := by
  induction h generalizing r with
  | andAlso _ _ ihl ihr =>
      cases h' with
      | andAlso hl hr => rw [ihl hl, ihr hr]
      | compare hop => exact hop.elim
  | orElse _ _ ihl ihr =>
      cases h' with
      | orElse hl hr => rw [ihl hl, ihr hr]
      | compare hop => exact hop.elim
  | compare hop hl hr =>
      cases h' with
      | andAlso | orElse => exact hop.elim
      | compare _ hl' hr' =>
          rw [hl.eq_unconverted, hr.eq_unconverted, hl'.eq_unconverted, hr'.eq_unconverted]

theorem IsColumn.exists_plainColumn (h : e.IsColumn) : ∃ e', PlainColumn e e' := by
  induction h with
  | chain h => exact ⟨_, .chain h⟩
  | convert _ ih =>
      obtain ⟨e', h⟩ := ih
      exact ⟨e', .convert h⟩

theorem IsOperand.exists_plainOperand (h : e.IsOperand) : ∃ e', PlainOperand e e' := by
  induction h with
  | constant v => exact ⟨_, .constant v⟩
  | param name => exact ⟨_, .param name⟩
  | member name => exact ⟨_, .member name⟩
  | captured h => exact ⟨_, .captured h⟩
  | convert _ ih =>
      obtain ⟨e', h⟩ := ih
      exact ⟨e', .convert h⟩

/-- Every accepted predicate has a plain form. -/
theorem IsPredicate.exists_plainForm (h : p.IsPredicate) : ∃ q, p.PlainForm q := by
  induction h with
  | andAlso _ _ ihl ihr =>
      obtain ⟨lhs', hl⟩ := ihl
      obtain ⟨rhs', hr⟩ := ihr
      exact ⟨_, .andAlso hl hr⟩
  | orElse _ _ ihl ihr =>
      obtain ⟨lhs', hl⟩ := ihl
      obtain ⟨rhs', hr⟩ := ihr
      exact ⟨_, .orElse hl hr⟩
  | compare hop hl hr =>
      obtain ⟨lhs', hl⟩ := hl.exists_plainColumn
      obtain ⟨rhs', hr⟩ := hr.exists_plainOperand
      exact ⟨_, .compare hop hl hr⟩

/-! ### The condition of a plain form -/

theorem PlainColumn.column_eq (h : PlainColumn e e') : e'.column = e.column := by
  induction h with
  | chain => rfl
  | convert _ ih => exact ih

theorem PlainOperand.ofExpr_eq (h : PlainOperand e e') : Operand.ofExpr e' = Operand.ofExpr e := by
  induction h with
  | constant | param | member => rfl
  | captured h =>
      refine (Operand.ofExpr_eq_literal_iff.mpr ?_).symm
      rw [unconverted_chain h.ne_nil, literal?_chain h]
  | convert _ ih => exact ih

/-- A plain form describes the condition that the predicate describes. -/
theorem PlainForm.ofExpr_eq (h : p.PlainForm q) : Condition.ofExpr q = Condition.ofExpr p := by
  induction h with
  | andAlso _ _ ihl ihr | orElse _ _ ihl ihr =>
      rw [Condition.ofExpr, ihl, ihr, Condition.ofExpr]
  | @compare op _ _ _ _ hop hl hr =>
      have hand : op ≠ .andAlso := by
        rintro rfl
        exact hop
      have hor : op ≠ .orElse := by
        rintro rfl
        exact hop
      rw [Condition.ofExpr, hl.column_eq, hr.ofExpr_eq, Condition.ofExpr]
      all_goals assumption

/-! ### Other environments -/

mutual

/-- An expression with its environments replaced. -/
def recaptured (f : Environment → Environment) : Expr → Expr
  | .captured env => .captured (f env)
  | .member target name => .member (recaptured f target) name
  | .binary op lhs rhs => .binary op (recaptured f lhs) (recaptured f rhs)
  | .not e => .not (recaptured f e)
  | .record items => .record (recapturedItems f items)
  | .convert e => .convert (recaptured f e)
  | e => e

/-- The items of a record with their environments replaced. -/
def recapturedItems (f : Environment → Environment) : List Expr → List Expr
  | [] => []
  | e :: es => recaptured f e :: recapturedItems f es

end

/-- The right sides of a predicate without the conversions around them, from left to right. -/
def operands : Expr → List Expr :=
  collect fun _ rhs => [rhs.unconverted]

/-- Other environments in which the variables that a predicate names have the values that they
had. -/
def KeepsVariables (f : Environment → Environment) (p : Expr) : Prop :=
  ∀ env names v, chain (.captured env) names ∈ p.operands →
    env.Leads names (.value v) → (f env).Leads names (.value v)

variable {f : Environment → Environment} {env env' : Environment} {names names' : List String}

/-- A chain on an environment has one environment and one list of names. -/
theorem chain_captured_inj (h : chain (.captured env) names = chain (.captured env') names') :
    env = env' ∧ names = names' := by
  obtain ⟨henv, hnames⟩ := chain_inj (isRoot_captured env) (isRoot_captured env') h
  exact ⟨Expr.captured.inj henv, hnames⟩

theorem recaptured_chain (root : Expr) (names : List String) :
    recaptured f (chain root names) = chain (recaptured f root) names := by
  induction names generalizing root with
  | nil => rfl
  | cons name names ih => rw [chain_cons, ih, chain_cons, recaptured]

theorem PlainColumn.recaptured (h : PlainColumn e e') : PlainColumn (e.recaptured f) e' := by
  induction h with
  | chain h =>
      rw [recaptured_chain]
      exact .chain h
  | convert _ ih => exact .convert ih

theorem PlainOperand.recaptured (h : PlainOperand e e')
    (hf : ∀ env names v, chain (.captured env) names = e.unconverted →
      env.Leads names (.value v) → (f env).Leads names (.value v)) :
    PlainOperand (e.recaptured f) e' := by
  induction h with
  | constant v => exact .constant v
  | param name => exact .param name
  | member name => exact .member name
  | captured h =>
      rw [recaptured_chain]
      exact .captured (hf _ _ _ (unconverted_chain h.ne_nil).symm h)
  | convert _ ih => exact .convert (ih hf)

/-- A predicate keeps its plain form in other environments, if the variables that it names are
kept. -/
theorem PlainForm.recaptured (h : p.PlainForm q) (hf : p.KeepsVariables f) :
    (p.recaptured f).PlainForm q := by
  induction h with
  | andAlso _ _ ihl ihr =>
      exact .andAlso (ihl fun env names v hmem => hf env names v (List.mem_append_left _ hmem))
        (ihr fun env names v hmem => hf env names v (List.mem_append_right _ hmem))
  | orElse _ _ ihl ihr =>
      exact .orElse (ihl fun env names v hmem => hf env names v (List.mem_append_left _ hmem))
        (ihr fun env names v hmem => hf env names v (List.mem_append_right _ hmem))
  | compare hop hl hr =>
      obtain ⟨comparison, hcomparison⟩ := BinaryOp.exists_comparison?_iff.mpr hop
      rw [KeepsVariables, operands, collect_compare _ hcomparison] at hf
      exact .compare hop hl.recaptured
        (hr.recaptured fun env names v heq => hf env names v (List.mem_singleton.mpr heq))

/-- A name that no captured variable of a predicate starts with may be bound in its
environments. -/
theorem keepsVariables_bind {name : String}
    (h : ∀ env names, chain (.captured env) names ∈ p.operands → names.head? ≠ some name)
    (v : Value) : p.KeepsVariables (·.bind name v) := by
  intro env names v' hmem hleads
  obtain ⟨first, rest, rfl⟩ := List.exists_cons_of_ne_nil hleads.ne_nil
  have hne : first ≠ name := fun hfirst => h env _ hmem (congrArg some hfirst)
  exact hleads.of_lookup_eq ((env.get?_bind name first v).trans (if_neg hne))

end Expr

/-! ### Statements -/

section Statements

variable {dialect : Dialect} {entity : Descriptor} {projection : Option Expr}
  {joins : List JoinClause} {p q : Expr} {s : Statement}

/-- A predicate counts in a selection only for the condition that it describes. -/
theorem compileSelect_congr (h : Condition.ofExpr p = Condition.ofExpr q) :
    compileSelect dialect entity projection (some p) joins =
      compileSelect dialect entity projection (some q) joins := by
  rw [compileSelect, conditionOf?, h]
  rfl

/-- The predicate of an accepted selection is of the grammar. -/
theorem isPredicate_of_compileSelect
    (h : compileSelect dialect entity projection (some p) joins = .ok s) : p.IsPredicate := by
  obtain ⟨-, -, condition, -, -, hcondition, -⟩ := compileSelect_eq_ok_iff.mp h
  obtain ⟨c, hc, -⟩ := map_eq_ok_iff.mp hcondition
  exact Expr.isPredicate_iff.mpr ⟨c, hc⟩

/-- An accepted predicate has one plain form, and in every selection both are compiled to the same
statement. So is the predicate in other environments that keep the variables that it names. In an
environment that calls have built, names lead to the value that the last calls of the names give. -/
theorem compileSelect_plainForm
    (h : compileSelect dialect entity projection (some p) joins = .ok s) :
    (∃ plain, (∀ q, p.PlainForm q ↔ q = plain) ∧
      compileSelect dialect entity projection (some plain) joins = .ok s ∧
      ∀ dialect entity projection joins,
        compileSelect dialect entity projection (some plain) joins =
          compileSelect dialect entity projection (some p) joins) ∧
    (∀ f, p.KeepsVariables f → ∀ dialect entity projection joins,
      compileSelect dialect entity projection (some (p.recaptured f)) joins =
        compileSelect dialect entity projection (some p) joins) ∧
    ∀ (c : Capturing) names v, c.environment.Leads names (.value v) ↔ c.Denotes names v := by
  obtain ⟨plain, hplain⟩ := (isPredicate_of_compileSelect h).exists_plainForm
  refine ⟨⟨plain, fun q => ⟨fun hq => hq.unique hplain, fun hq => hq ▸ hplain⟩, ?_, ?_⟩, ?_, ?_⟩
  · rw [compileSelect_congr hplain.ofExpr_eq, h]
  · exact fun _ _ _ _ => compileSelect_congr hplain.ofExpr_eq
  · exact fun f hf _ _ _ _ =>
      compileSelect_congr ((hplain.recaptured hf).ofExpr_eq.symm.trans hplain.ofExpr_eq)
  · exact fun _ _ _ => Capturing.leads_environment_iff

end Statements

/-- Calls that bind two names twice, one of them in a nested environment. -/
def requestCalls : Capturing :=
  .bind
    (.nest (.bind .empty "limit" (.bool true)) "request"
      (.bind (.bind .empty "owner" (.text "Ann")) "owner" .null))
    "limit" (.int ⟨7, by decide⟩)

/-- A predicate with conversions, a captured null and a captured number. -/
def requestPredicate : Expr :=
  .binary .andAlso
    (.binary .equal (.convert (.chain .row ["home", "owner"]))
      (.chain (.captured requestCalls.environment) ["request", "owner"]))
    (.binary .lessThan (.member .row "age")
      (.convert (.convert (.chain (.captured requestCalls.environment) ["limit"]))))

/-- The predicate without conversions and captured variables. -/
def plainRequestPredicate : Expr :=
  .binary .andAlso
    (.binary .equal (.chain .row ["home", "owner"]) (.constant .null))
    (.binary .lessThan (.member .row "age") (.constant (.int ⟨7, by decide⟩)))

theorem plainForm_requestPredicate : requestPredicate.PlainForm plainRequestPredicate := by
  have howner : requestCalls.Denotes ["request", "owner"] .null :=
    .beforeBind (by decide) (.nested (.bound _ _ _))
  have hlimit : requestCalls.Denotes ["limit"] (.int ⟨7, by decide⟩) := .bound _ _ _
  have hage : Expr.PlainColumn (.chain .row ["age"]) (.chain .row ["age"]) :=
    .chain (List.cons_ne_nil _ _)
  exact .andAlso
    (.compare trivial (.convert (.chain (List.cons_ne_nil _ _))) (.captured howner.leads))
    (.compare trivial hage (.convert (.convert (.captured hlimit.leads))))

theorem compileSelect_plainForm_request :
    ∃ s, compileSelect .tSql ⟨"people", []⟩ none (some requestPredicate) [] = .ok s ∧
      s.sql = "SELECT * FROM people WHERE ((home.owner IS NULL) AND (age < 7))" ∧
      requestPredicate.PlainForm plainRequestPredicate ∧
      compileSelect .tSql ⟨"people", []⟩ none (some plainRequestPredicate) [] = .ok s ∧
      compileSelect .tSql ⟨"people", []⟩ none
        (some (requestPredicate.recaptured (·.bind "offset" .null))) [] = .ok s := by
  have hrequest : compileSelect .tSql ⟨"people", []⟩ none (some requestPredicate) [] = .ok _ := rfl
  obtain ⟨⟨plain, hplain, hsame, -⟩, hother, -⟩ := compileSelect_plainForm hrequest
  have hkeeps : requestPredicate.KeepsVariables (·.bind "offset" .null) := by
    refine Expr.keepsVariables_bind (fun env names hmem => ?_) .null
    rcases List.mem_pair.mp hmem with h | h <;>
      · obtain ⟨-, rfl⟩ := Expr.chain_captured_inj h
        decide
  rw [← (hplain _).mp plainForm_requestPredicate] at hsame
  exact ⟨_, rfl, by decide +kernel, plainForm_requestPredicate, hsame, hother _ hkeeps _ _ _ _⟩

end EntitySql
