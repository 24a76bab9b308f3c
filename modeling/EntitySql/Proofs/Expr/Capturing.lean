import EntitySql.Proofs.Expr.Chain

/-!
# Environments by the calls that build them

An environment is built by calls that bind a value or nest another environment under a name. A
later call of a name replaces an earlier one, so names lead through the last call of each of them.

## Main definitions

* `Capturing` : the calls that build an environment.
* `Capturing.environment` : the environment that they build.
* `Capturing.Denotes` : the value that names lead to, by the calls.

## Main results

* `Capturing.leads_environment_iff` : names lead to a value in an environment if they do by the
  calls that built it.
-/

namespace EntitySql

/-- The calls that build an environment, the last one outermost. -/
inductive Capturing where
  | empty
  | bind (before : Capturing) (name : String) (v : Value)
  | nest (before : Capturing) (name : String) (inner : Capturing)

namespace Capturing

/-- The environment that calls build. -/
def environment : Capturing → Environment
  | empty => .empty
  | bind before name v => before.environment.bind name v
  | nest before name inner => before.environment.nest name inner.environment

/-- The value that names lead to: the first name is that of its last call, and if that call nests
an environment, the other names lead on by the calls of the nested one. -/
inductive Denotes : Capturing → List String → Value → Prop
  | bound (before name v) : Denotes (bind before name v) [name] v
  | nested {before name inner names v} (h : Denotes inner names v) :
      Denotes (nest before name inner) (name :: names) v
  | beforeBind {before other v' name names v} (hne : name ≠ other)
      (h : Denotes before (name :: names) v) : Denotes (bind before other v') (name :: names) v
  | beforeNest {before other inner name names v} (hne : name ≠ other)
      (h : Denotes before (name :: names) v) : Denotes (nest before other inner) (name :: names) v

end Capturing

namespace Environment

variable {env env' : Environment} {name : String} {names : List String} {c : Captured}

/-- What names lead to depends on the variable of the first name only. -/
theorem Leads.of_lookup_eq (h : env.Leads (name :: names) c)
    (hlookup : env'.lookup name = env.lookup name) : env'.Leads (name :: names) c := by
  cases h with
  | last h => exact .last (hlookup.trans h)
  | through h hrest => exact .through (hlookup.trans h) hrest

end Environment

namespace Capturing

variable {c : Capturing} {names : List String} {v : Value}

theorem Denotes.leads (h : c.Denotes names v) : c.environment.Leads names (.value v) := by
  induction h with
  | bound before name v =>
      exact .last ((before.environment.get?_bind name name v).trans (if_pos rfl))
  | @nested before name inner names v _ ih =>
      exact .through ((before.environment.get?_nest name name _).trans (if_pos rfl)) ih
  | beforeBind hne _ ih =>
      exact ih.of_lookup_eq ((Environment.get?_bind _ _ _ _).trans (if_neg hne))
  | beforeNest hne _ ih =>
      exact ih.of_lookup_eq ((Environment.get?_nest _ _ _ _).trans (if_neg hne))

/-- The induction is on the calls, from the last one back: a name that is not that of the last call
is looked up before it. -/
theorem denotes_of_leads (h : c.environment.Leads names (.value v)) : c.Denotes names v := by
  obtain ⟨name, names, rfl⟩ := List.exists_cons_of_ne_nil h.ne_nil
  induction c generalizing name names with
  | empty =>
      rcases Environment.leads_value_iff.mp h with ⟨-, h⟩ | ⟨_, h, -⟩ <;> cases h
  | bind before other v' ih =>
      have hget := Environment.get?_bind before.environment other name v'
      by_cases hname : name = other
      · subst hname
        rw [if_pos rfl] at hget
        rcases Environment.leads_value_iff.mp h with ⟨rfl, hvalue⟩ | ⟨_, hnested, -⟩
        · cases hget.symm.trans hvalue
          exact .bound before name v
        · cases hget.symm.trans hnested
      · rw [if_neg hname] at hget
        exact .beforeBind hname (ih name names (h.of_lookup_eq hget.symm))
  | nest before other inner ih ihInner =>
      have hget := Environment.get?_nest before.environment other name inner.environment
      by_cases hname : name = other
      · subst hname
        rw [if_pos rfl] at hget
        rcases Environment.leads_value_iff.mp h with ⟨-, hvalue⟩ | ⟨_, hnested, hrest⟩
        · cases hget.symm.trans hvalue
        · cases hget.symm.trans hnested
          obtain ⟨next, rest, rfl⟩ := List.exists_cons_of_ne_nil hrest.ne_nil
          exact .nested (ihInner next rest hrest)
      · rw [if_neg hname] at hget
        exact .beforeNest hname (ih name names (h.of_lookup_eq hget.symm))

/-- Names lead to a value in an environment if they do by the calls that built it. -/
theorem leads_environment_iff : c.environment.Leads names (.value v) ↔ c.Denotes names v :=
  ⟨denotes_of_leads, Denotes.leads⟩

end Capturing

end EntitySql
