import EntitySql.Proofs.Query.Parts

/-!
# Selections that are built in steps

A step sets the projection, adds a filter, adds a clause or replaces all clauses. After any steps a
selection has the projection that was set last, all filters in their order, and the clauses that
remain: those behind the last replacement, after the ones that it put in. No step touches what
belongs to another family, so that only the order of the steps of each family matters.

## Main definitions

* `Selection.Step`, `Selection.built` : steps, and the selection that they build.
* `Selection.Remain` : the clauses that remain after steps.

## Main results

* `Selection.projection_built`, `Selection.predicate_built`, `Selection.remain_iff` : the parts of a
  selection that has been built.
* `Selection.part_built_ofFamily` : a part is built by the steps of its family.
* `Selection.compile_built` : what a selection that has been built is compiled to.
-/

namespace EntitySql

namespace Selection

/-! ### Steps -/

/-- The families of steps: for the projection, for the filters, and for the clauses. -/
inductive Family where
  | projection
  | filters
  | joins
deriving DecidableEq

/-- The steps that a selection is built with. -/
inductive Step where
  | select (e : Expr)
  | filter (e : Expr)
  | join (j : JoinClause)
  | withJoins (js : List JoinClause)

namespace Step

/-- The family of a step. -/
def family : Step → Family
  | select _ => .projection
  | filter _ => .filters
  | join _ | withJoins _ => .joins

/-- The selection after a step. -/
def apply (q : Selection) : Step → Selection
  | select e => q.select e
  | filter e => q.filter e
  | join j => q.join j
  | withJoins js => q.withJoins js

/-- The projection that a step sets. -/
def projection? : Step → Option Expr
  | select e => some e
  | _ => none

/-- The filter that a step adds. -/
def filter? : Step → Option Expr
  | filter e => some e
  | _ => none

/-- The clause that a step adds. -/
def clause? : Step → Option JoinClause
  | join j => some j
  | _ => none

/-- The clauses that a step puts in the place of all others. -/
def replaced? : Step → Option (List JoinClause)
  | withJoins js => some js
  | _ => none

end Step

/-- The selection that steps build from the one of every column of every row. -/
def built (steps : List Step) : Selection :=
  steps.foldl Step.apply all

variable {steps : List Step}

theorem built_concat (steps : List Step) (step : Step) :
    built (steps ++ [step]) = step.apply (built steps) :=
  List.foldl_concat ..

/-! ### What a step changes -/

theorem projection_apply (step : Step) (q : Selection) :
    (step.apply q).projection = step.projection?.or q.projection := by
  cases step <;> rfl

theorem predicate_apply (step : Step) (q : Selection) :
    (step.apply q).predicate = step.filter?.elim q.predicate fun e =>
      some (q.predicate.elim e (.binary .andAlso · e)) := by
  cases step with
  | filter e => cases h : q.predicate <;> simp [Step.apply, Selection.filter, Step.filter?, h]
  | _ => rfl

theorem joins_apply (step : Step) (q : Selection) :
    (step.apply q).joins = step.replaced?.getD q.joins ++ step.clause?.toList := by
  cases step with
  | join j => rfl
  | _ => exact (List.append_nil _).symm

/-! ### The projection and the filters -/

/-- The projection is the one that was set last. -/
theorem projection_built (steps : List Step) :
    (built steps).projection = (steps.filterMap Step.projection?).getLast? := by
  induction steps using List.reverseRecOn with
  | nil => rfl
  | append_singleton steps step ih =>
      rw [built_concat, projection_apply, ih, List.filterMap_append, List.getLast?_append]
      cases h : step.projection? <;> simp [h]

/-- The predicate is the connection of all filters. -/
theorem predicate_built (steps : List Step) : (built steps).predicate =
    connected? (.binary .andAlso) (steps.filterMap Step.filter?) := by
  induction steps using List.reverseRecOn with
  | nil => rfl
  | append_singleton steps step ih =>
      rw [built_concat, predicate_apply, ih, List.filterMap_append]
      cases h : step.filter? <;> simp [h, connected?_concat]

/-! ### The clauses -/

/-- The clauses that remain after steps: all that were added if they were never replaced; otherwise
those of the last replacement and then those that were added after it. -/
inductive Remain : List Step → List JoinClause → Prop
  | never {steps : List Step} (h : ∀ js, .withJoins js ∉ steps) :
      Remain steps (steps.filterMap Step.clause?)
  | since {before later : List Step} {js : List JoinClause} (h : ∀ js', .withJoins js' ∉ later) :
      Remain (before ++ .withJoins js :: later) (js ++ later.filterMap Step.clause?)

/-- Steps that replace nothing add their clauses to those that are there. -/
theorem joins_foldl (h : ∀ js, .withJoins js ∉ steps) (q : Selection) :
    (steps.foldl Step.apply q).joins = q.joins ++ steps.filterMap Step.clause? := by
  induction steps generalizing q with
  | nil => exact (List.append_nil _).symm
  | cons step steps ih =>
      rw [List.foldl_cons, ih fun js hjs => h js (List.mem_cons_of_mem _ hjs), joins_apply]
      cases step with
      | join j => exact List.append_assoc ..
      | withJoins js => exact absurd List.mem_cons_self (h js)
      | _ => exact congrArg (· ++ _) (List.append_nil _)

/-- The clauses were never replaced, or there is a last replacement. -/
theorem exists_last_replacement (steps : List Step) :
    (∀ js, .withJoins js ∉ steps) ∨
      ∃ before js later, steps = before ++ .withJoins js :: later ∧
        ∀ js', .withJoins js' ∉ later := by
  induction steps using List.reverseRecOn with
  | nil => exact .inl fun _ => List.not_mem_nil
  | append_singleton steps step ih =>
      by_cases hstep : ∃ js, step = .withJoins js
      · obtain ⟨js, rfl⟩ := hstep
        exact .inr ⟨steps, js, [], rfl, fun _ => List.not_mem_nil⟩
      · -- the step stands behind the last replacement, if there is one
        have hkept {later : List Step} (h : ∀ js, .withJoins js ∉ later) (js) :
            .withJoins js ∉ later ++ [step] := by
          rw [List.mem_append, List.mem_singleton]
          rintro (hjs | hjs)
          · exact h js hjs
          · exact hstep ⟨js, hjs.symm⟩
        obtain h | ⟨before, js, later, rfl, h⟩ := ih
        · exact .inl (hkept h)
        · exact .inr ⟨before, js, later ++ [step], List.append_assoc .., hkept h⟩

/-- The clauses of a selection are those that remain. -/
theorem remain_iff {js : List JoinClause} : Remain steps js ↔ js = (built steps).joins := by
  have hnever {steps : List Step} (h : ∀ js, .withJoins js ∉ steps) :
      (built steps).joins = steps.filterMap Step.clause? := joins_foldl h all
  have hsince {before later : List Step} {js : List JoinClause}
      (h : ∀ js', .withJoins js' ∉ later) :
      (built (before ++ .withJoins js :: later)).joins = js ++ later.filterMap Step.clause? := by
    rw [built, List.foldl_append, List.foldl_cons, joins_foldl h]
    rfl
  constructor
  · rintro (h | h)
    · exact (hnever h).symm
    · exact (hsince h).symm
  · rintro rfl
    obtain h | ⟨before, js, later, rfl, h⟩ := exists_last_replacement steps
    · exact hnever h ▸ .never h
    · exact hsince h ▸ .since h

/-! ### Families -/

/-- A part that the steps of one family alone change is what these steps make of it, if a step makes
the same of it whenever it was the same before. -/
theorem part_built_ofFamily {α : Type} {part : Selection → α} {family : Family}
    (hsame : ∀ step q q', part q = part q' → part (Step.apply q step) = part (Step.apply q' step))
    (hskip : ∀ step q, step.family ≠ family → part (Step.apply q step) = part q)
    (steps : List Step) :
    part (built steps) = part (built (steps.filter (·.family = family))) := by
  induction steps using List.reverseRecOn with
  | nil => rfl
  | append_singleton steps step ih =>
      rw [built_concat, List.filter_append]
      by_cases hfamily : step.family = family
      · rw [List.filter_cons_of_pos (by simpa using hfamily), List.filter_nil, built_concat]
        exact hsame step _ _ ih
      · rw [List.filter_cons_of_neg (by simpa using hfamily), List.filter_nil, List.append_nil,
          hskip step _ hfamily, ih]

/-- Only the order of the steps of each family matters. -/
theorem built_eq_of_families {others : List Step}
    (h : ∀ family : Family,
      others.filter (·.family = family) = steps.filter (·.family = family)) :
    built others = built steps := by
  -- each part belongs to one family, so it is enough that the others skip it
  have hpart {α : Type} {part : Selection → α} (family : Family)
      (hsame : ∀ step q q', part q = part q' →
        part (Step.apply q step) = part (Step.apply q' step))
      (hskip : ∀ step q, step.family ≠ family → part (Step.apply q step) = part q) :
      part (built others) = part (built steps) := by
    rw [part_built_ofFamily hsame hskip others, part_built_ofFamily hsame hskip steps, h family]
  have hprojection : (built others).projection = (built steps).projection := by
    refine hpart .projection (fun step q q' hq => ?_) fun step q hstep => ?_
    · rw [projection_apply, projection_apply, hq]
    · cases step <;> first | rfl | exact absurd rfl hstep
  have hpredicate : (built others).predicate = (built steps).predicate := by
    refine hpart .filters (fun step q q' hq => ?_) fun step q hstep => ?_
    · rw [predicate_apply, predicate_apply, hq]
    · cases step <;> first | rfl | exact absurd rfl hstep
  have hjoins : (built others).joins = (built steps).joins := by
    refine hpart .joins (fun step q q' hq => ?_) fun step q hstep => ?_
    · rw [joins_apply, joins_apply, hq]
    · cases step <;> first | rfl | exact absurd rfl hstep
  calc built others
      = ⟨(built others).projection, (built others).predicate, (built others).joins⟩ := rfl
    _ = ⟨(built steps).projection, (built steps).predicate, (built steps).joins⟩ := by
        rw [hprojection, hpredicate, hjoins]
    _ = built steps := rfl

/-! ### Statements -/

variable {dialect : Dialect} {entity : Descriptor}

theorem compile_built_eq (dialect : Dialect) (entity : Descriptor) (steps : List Step) :
    (built steps).compile dialect entity =
      compileSelect dialect entity (steps.filterMap Step.projection?).getLast?
        (connected? (.binary .andAlso) (steps.filterMap Step.filter?)) (built steps).joins := by
  rw [Selection.compile, projection_built, predicate_built]

/-- A further filter is accepted only by a selection that is accepted without it, and its
placeholders are bound behind those that were there. -/
theorem exists_bindings_prefix {e : Expr} {s' : Statement}
    (h : (built (steps ++ [.filter e])).compile dialect entity = .ok s') :
    ∃ s, (built steps).compile dialect entity = .ok s ∧ s.bindings <+: s'.bindings := by
  have hjoins : (built (steps ++ [.filter e])).joins = (built steps).joins := by
    rw [built_concat]
    rfl
  have hprojection : [Step.filter e].filterMap Step.projection? = [] := rfl
  have hfilter : [Step.filter e].filterMap Step.filter? = [e] := rfl
  rw [compile_built_eq, hjoins, List.filterMap_append, hprojection, List.append_nil,
    List.filterMap_append, hfilter] at h
  rw [compile_built_eq]
  exact exists_bindings_prefix_of_concat h

/-- A selection that steps have built is compiled as its parts say: the projection that was set
last, the clauses that remain, and all filters. -/
theorem compile_built (dialect : Dialect) (entity : Descriptor) (steps : List Step) :
    ∃ joins, (∀ js, Remain steps js ↔ js = joins) ∧
      (∀ result, (built steps).compile dialect entity = result ↔
        Compiles dialect entity (steps.filterMap Step.projection?).getLast? joins
          (steps.filterMap Step.filter?) result) ∧
      ((∃ s, (built steps).compile dialect entity = .ok s) ↔
        (∀ p ∈ (steps.filterMap Step.projection?).getLast?,
          ∃ paths, p.projectedColumns = .ok paths) ∧
        (∀ j ∈ joins, ∃ text, j.sql = .ok text) ∧
        ∀ e ∈ steps.filterMap Step.filter?, ∃ c, Condition.ofExpr e = .ok c) ∧
      (∀ e s', (built (steps ++ [.filter e])).compile dialect entity = .ok s' →
        ∃ s, (built steps).compile dialect entity = .ok s ∧ s.bindings <+: s'.bindings) ∧
      ∀ others : List Step,
        (∀ family : Family,
          others.filter (·.family = family) = steps.filter (·.family = family)) →
        built others = built steps := by
  refine ⟨(built steps).joins, fun js => remain_iff, fun result => ?_, ?_,
    fun e s' => exists_bindings_prefix, fun others => built_eq_of_families⟩
  · rw [compile_built_eq, compiles_iff]
  · rw [compile_built_eq, exists_compileSelect_connected_iff]

/-- Steps of all kinds, one of which replaces the clause that was added before it. -/
def homeSteps : List Step :=
  [.join ⟨.inner, "people", "pets", "id", ""⟩,
    .filter (.binary .greaterThan (.member .row "age") (.param "limit")),
    .select (.record [.member .row "id"]),
    .withJoins [⟨.inner, "people", "homes", "home", "id"⟩],
    .filter (.binary .lessThan (.member .row "id") (.param "limit")),
    .select (.record [.member .row "id", .member (.member .row "homes") "town"]),
    .join ⟨.left, "homes", "towns", "town", "name"⟩]

/-- A filter with a placeholder of its own. -/
def exactFilter : Expr :=
  .binary .equal (.member .row "age") (.param "exact")

theorem compile_built_homes :
    ∃ s s', (built homeSteps).compile .postgres ⟨"people", []⟩ = .ok s ∧
      s.sql = "SELECT id, homes.town FROM people" ++
        " INNER JOIN homes ON people.home = homes.id LEFT JOIN towns ON homes.town = towns.name" ++
        " WHERE ((age > @limit) AND (id < @limit))" ∧
      (built (homeSteps ++ [.filter exactFilter])).compile .postgres ⟨"people", []⟩ = .ok s' ∧
      s.bindings <+: s'.bindings ∧ s'.bindings = [.deferred "limit", .deferred "exact"] ∧
      built (homeSteps.filter (·.family = .joins) ++ homeSteps.filter (·.family = .filters) ++
        homeSteps.filter (·.family = .projection)) = built homeSteps := by
  obtain ⟨_, -, -, -, hprefix, hfamilies⟩ := compile_built .postgres ⟨"people", []⟩ homeSteps
  obtain ⟨s, hs, hbindings⟩ := hprefix exactFilter _ rfl
  refine ⟨s, _, hs, ?_, rfl, hbindings, rfl, hfamilies _ fun family => by cases family <;> rfl⟩
  cases hs
  rfl

end Selection

end EntitySql
