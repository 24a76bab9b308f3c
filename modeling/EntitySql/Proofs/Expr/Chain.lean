import Mathlib.Data.List.Basic
import Mathlib.Data.List.Induction
import EntitySql.Expr.Path

/-!
# Chains of members and their roots

A chain is a root with members taken one behind the other. A chain is taken apart from its last
member, but what it means is said from its root on: on the row its names are the column, and on a
captured environment they lead through nested environments to a variable.

## Main definitions

* `Expr.chain` : the chain of members with given names on a root.
* `Expr.unchained` : the root of a chain and its names.
* `Expr.IsRoot` : the expressions that a chain may start at, which are no members themselves.
* `Environment.Leads` : what names lead to, from an environment on.
* `Environment.valueAt?` : the value that names lead to.

## Main results

* `Environment.valueAt?_eq_some_iff` : the value is found exactly if the names lead to it.
* `Expr.exists_root`, `Expr.chain_inj` : every expression is a chain on one root.
* `Expr.memberPath?_eq_some_iff` : the names of a column are those of a chain on the row.
* `Expr.slot?_eq_some_iff` : a variable is what the names of a chain on its environment lead to.
-/

namespace EntitySql

/-- The chain of members with given names on a root. -/
def Expr.chain (root : Expr) (names : List String) : Expr :=
  names.foldl .member root

/-- The root of a chain and the names of the members taken from it, the first of them first. -/
def Expr.unchained : Expr → Expr × List String
  | .member target name => ((unchained target).1, (unchained target).2 ++ [name])
  | e => (e, [])

/-! ### What names lead to -/

namespace Environment

/-- What names lead to from an environment: each but the last is that of a nested environment, in
which the next one is looked up. -/
inductive Leads : Environment → List String → Captured → Prop
  | last {env : Environment} {name c} (h : env.lookup name = some c) : Leads env [name] c
  | through {env inner : Environment} {name names c} (h : env.lookup name = some (.nested inner))
      (hrest : Leads inner names c) : Leads env (name :: names) c

/-- The value that names lead to from an environment. -/
def valueAt? : Environment → List String → Option Value
  | _, [] => none
  | env, name :: names =>
      match env.lookup name with
      | some (.nested inner) => valueAt? inner names
      | some (.value v) => if names = [] then some v else none
      | none => none

variable {env inner : Environment} {names : List String} {name : String} {c : Captured} {v : Value}

/-- Names that lead to an environment lead on to its variables. -/
theorem Leads.concat (h : env.Leads names (.nested inner)) (hname : inner.lookup name = some c) :
    env.Leads (names ++ [name]) c := by
  generalize hmid : Captured.nested inner = mid at h
  induction h with
  | last hlast =>
      subst hmid
      exact through hlast (last hname)
  | through hfirst _ ih => exact through hfirst (ih hmid)

theorem Leads.ne_nil (h : env.Leads names c) : names ≠ [] := by
  cases h <;> exact List.cons_ne_nil _ _

/-- Names lead to a value through a variable that holds it, if there is no name left, or through a
variable that holds an environment. -/
theorem leads_value_iff : env.Leads (name :: names) (.value v) ↔
    (names = [] ∧ env.lookup name = some (.value v)) ∨
      ∃ inner, env.lookup name = some (.nested inner) ∧ Leads inner names (.value v) := by
  constructor
  · intro h
    cases h with
    | last h => exact .inl ⟨rfl, h⟩
    | through h hrest => exact .inr ⟨_, h, hrest⟩
  · rintro (⟨rfl, h⟩ | ⟨inner, h, hrest⟩)
    · exact .last h
    · exact .through h hrest

/-- The value is found exactly if the names lead to it. -/
theorem valueAt?_eq_some_iff : env.valueAt? names = some v ↔ env.Leads names (.value v) := by
  induction names generalizing env with
  | nil => exact ⟨nofun, fun h => absurd rfl h.ne_nil⟩
  | cons name names ih =>
      rw [leads_value_iff, valueAt?]
      split
      · next inner hname => simp [hname, ih]
      · next v' hname => simp [hname]
      · next hname => simp [hname]

end Environment

namespace Expr

variable {e target : Expr} {path before names : List String} {env inner : Environment}
  {c : Captured}

theorem chain_cons (root : Expr) (name : String) (names : List String) :
    chain root (name :: names) = chain (.member root name) names := rfl

theorem chain_concat (root : Expr) (names : List String) (name : String) :
    chain root (names ++ [name]) = .member (chain root names) name := by
  simp [chain]

/-- A chain with names is a member. -/
theorem exists_eq_member (root : Expr) (h : names ≠ []) :
    ∃ target name, chain root names = .member target name := by
  obtain ⟨before, last, rfl⟩ := (List.eq_nil_or_concat' names).resolve_left h
  exact ⟨_, _, chain_concat root before last⟩

/-! ### Roots -/

/-- A root of chains: an expression that is no member of another one. -/
def IsRoot (e : Expr) : Prop :=
  ∀ target name, e ≠ .member target name

theorem isRoot_row : IsRoot .row := fun _ _ h => nomatch h

theorem isRoot_captured (env : Environment) : IsRoot (.captured env) := fun _ _ h => nomatch h

/-- Every expression is a chain on a root. -/
theorem exists_root (e : Expr) : ∃ root names, root.IsRoot ∧ e = chain root names := by
  cases e with
  | member target name =>
      obtain ⟨root, names, hroot, htarget⟩ := exists_root target
      exact ⟨root, names ++ [name], hroot, by rw [chain_concat, ← htarget]⟩
  | _ =>
      refine ⟨_, [], ?_, rfl⟩
      intro target name h
      cases h

/-- A chain on a root is taken apart into the root and the names on it. -/
theorem unchained_chain {root : Expr} (hroot : root.IsRoot) (names : List String) :
    (chain root names).unchained = (root, names) := by
  induction names using List.reverseRecOn with
  | nil =>
      cases root with
      | member target name => exact absurd rfl (hroot target name)
      | _ => rfl
  | append_singleton names name ih => rw [chain_concat, unchained, ih]

/-- A chain has one root, and one list of names on it. -/
theorem chain_inj {root root' : Expr} {names names' : List String} (hroot : root.IsRoot)
    (hroot' : root'.IsRoot) (h : chain root names = chain root' names') :
    root = root' ∧ names = names' := by
  have hunchained := congrArg unchained h
  rw [unchained_chain hroot, unchained_chain hroot'] at hunchained
  exact Prod.mk.inj hunchained

/-! ### Chains on the row -/

theorem memberPath?_member (h : memberPath? target = some before) (name : String) :
    memberPath? (.member target name) = some (before ++ [name]) := by
  cases target with
  | member => rw [memberPath?, h, Option.map_some]
  | _ => cases h

/-- A column keeps its names when more members are taken. -/
theorem memberPath?_chain (h : memberPath? target = some before) :
    memberPath? (chain target names) = some (before ++ names) := by
  induction names generalizing target before with
  | nil => simpa [chain] using h
  | cons name names ih => rw [chain_cons, ih (memberPath?_member h name), ← List.append_cons]

/-- The names of a column are those of a chain on the row. -/
theorem memberPath?_eq_some_iff : memberPath? e = some path ↔ path ≠ [] ∧ e = chain .row path := by
  constructor
  · intro h
    fun_induction memberPath? e generalizing path with
    | case1 name =>
        cases h
        exact ⟨List.cons_ne_nil _ _, rfl⟩
    | case2 name target last ih =>
        obtain ⟨before, hbefore, rfl⟩ := Option.map_eq_some_iff.mp h
        rw [chain_concat, ← (ih hbefore).2]
        exact ⟨by simp, rfl⟩
    | case3 => cases h
    | case4 => cases h
  · rintro ⟨hne, rfl⟩
    obtain ⟨name, names, rfl⟩ := List.exists_cons_of_ne_nil hne
    have hfirst : memberPath? (.member .row name) = some [name] := rfl
    rw [chain_cons, memberPath?_chain hfirst, List.singleton_append]

/-- A chain on another root names no column, and neither does the row alone. -/
theorem memberPath?_chain_eq_none {root : Expr} (hroot : root.IsRoot)
    (h : root ≠ .row ∨ names = []) : memberPath? (chain root names) = none := by
  rw [Option.eq_none_iff_forall_ne_some]
  intro path hpath
  obtain ⟨hne, hchain⟩ := memberPath?_eq_some_iff.mp hpath
  obtain ⟨rfl, rfl⟩ := chain_inj hroot isRoot_row hchain
  exact h.elim (fun hrow => hrow rfl) hne

/-! ### Chains on a captured environment -/

theorem slot?_member (h : slot? target = some (.nested inner)) (name : String) :
    slot? (.member target name) = inner.get? name := by
  cases target with
  | member => rw [slot?, h]
  | _ => cases h

/-- From a variable that holds an environment, names lead to the same as from the environment. -/
theorem slot?_chain_of_nested (htarget : slot? target = some (.nested inner))
    (h : inner.Leads names c) : slot? (chain target names) = some c := by
  induction h generalizing target with
  | last hname => exact (slot?_member htarget _).trans hname
  | through hname _ ih => exact ih ((slot?_member htarget _).trans hname)

theorem slot?_chain (h : env.Leads names c) : slot? (chain (.captured env) names) = some c := by
  cases h with
  | last hname => exact hname
  | @through _ inner name _ _ hname hrest =>
      have hfirst : slot? (.member (.captured env) name) = some (.nested inner) := hname
      rw [chain_cons]
      exact slot?_chain_of_nested hfirst hrest

/-- A variable is what the names of a chain on its environment lead to. -/
theorem slot?_eq_some_iff :
    slot? e = some c ↔ ∃ env names, env.Leads names c ∧ e = chain (.captured env) names := by
  constructor
  · intro h
    fun_induction slot? e generalizing c with
    | case1 name env => exact ⟨env, [name], .last h, rfl⟩
    | case2 name target last inner hslot ih =>
        obtain ⟨env, names, hleads, he⟩ := ih hslot
        refine ⟨env, names ++ [name], hleads.concat h, ?_⟩
        rw [chain_concat, ← he]
    | case3 => cases h
    | case4 => cases h
    | case5 => cases h
  · rintro ⟨env, names, h, rfl⟩
    exact slot?_chain h

end Expr

end EntitySql
