import EntitySql.Execution.Executor
import EntitySql.Proofs.Execution.Trace

/-!
# Operations in scopes

Every operation of an executor first prepares a statement with its parameters. If that fails, the
provider is left alone; otherwise the statement runs in a scope of its own. Over any sequence of
operations no connection stays open that a scope has opened, and no statement runs outside a scope,
whatever the provider answers.

## Main definitions

* `Operation` : the operations of an executor with what they are given.
* `Operation.prepare` : the statement and the parameters of an operation, or why it is refused.
* `Operation.run`, `Executor.runAll` : what an operation does, and a sequence of operations.
* `IsScoped` : an action leaves the provider alone or makes one scope.

## Main results

* `Operation.isScoped_run` : what one operation does to any provider.
* `runAll_traced` : what a sequence of operations does to any provider.
-/

namespace EntitySql

variable {σ ρ α β : Type} [DataRow ρ]

/-! ### Operations -/

/-- An operation of an executor with what it is given. -/
inductive Operation : Type 1 where
  | query {α : Type} (E : EntityType α) (projection predicate : Option Expr)
  | queryWith {α : Type} (E : EntityType α) (projection predicate : Option Expr)
      (joins : List JoinClause) (arg : Option Argument)
  | queryAs {α : Type} (E : EntityType α) (q : Selection) (arg : Option Argument)
  | runQuery {α : Type} (E : EntityType α) (s : Statement) (arg : Option Argument)
  | queryText {α : Type} (E : EntityType α) (sql : String) (params : List Param)
  | queryFirst {α : Type} (E : EntityType α) (sql : String) (params : List Param)
  | insert {α : Type} (E : EntityType α) (a : α)
  | update {α : Type} (E : EntityType α) (a : α)
  | delete {α : Type} (E : EntityType α) (key : Value)
  | runCommand (s : Statement) (arg : Option Argument)
  | executeText (sql : String) (params : List Param)

/-- A statement with its parameters, or why it is refused before a scope is entered. -/
def Statement.prepare (isQuery : Bool) (arg : Option Argument) (s : Statement) :
    Except Error (Statement × List Param) :=
  if s.isEmpty ∨ (isQuery ∧ s.kind ≠ .select) then .error .notInitialized
  else (Executor.parameters s arg).map fun params => (s, params)

namespace Operation

/-- What an operation answers. -/
def Answer : Operation → Type
  | @query α .. | @queryWith α .. | @queryAs α .. | @runQuery α .. | @queryText α .. => List α
  | @queryFirst α .. => Option α
  | insert .. | update .. | delete .. | runCommand .. | executeText .. => Nat

/-- What an executor does for an operation. -/
def run (x : Executor σ ρ) : (o : Operation) → Action σ o.Answer
  | query E projection predicate => x.query E projection predicate
  | queryWith E projection predicate joins arg => x.queryWith E projection predicate joins arg
  | queryAs E q arg => x.queryAs E q arg
  | runQuery E s arg => x.runQuery E s arg
  | queryText E sql params => x.queryText E sql params
  | queryFirst E sql params => x.queryFirst E sql params
  | insert E a => x.insert E a
  | update E a => x.update E a
  | delete E key => x.delete E key
  | runCommand s arg => x.runCommand s arg
  | executeText sql params => x.executeText sql params

/-- The statement of an operation with its parameters, or the error of compiling it, of an empty or
unfit statement, or of binding its argument. -/
def prepare (dialect : Dialect) : Operation → Except Error (Statement × List Param)
  | query E projection predicate =>
      compileSelect dialect E.descriptor projection predicate [] >>= Statement.prepare true none
  | queryWith E projection predicate joins arg =>
      compileSelect dialect E.descriptor projection predicate joins >>= Statement.prepare true arg
  | queryAs E q arg => q.compile dialect E.descriptor >>= Statement.prepare true arg
  | runQuery _ s arg => s.prepare true arg
  | queryText _ sql params | queryFirst _ sql params =>
      (Statement.handwritten .select sql (Executor.literalBindings params)).prepare true none
  | insert E a => compileInsert E.descriptor >>= Statement.prepare false (some (.ofEntity E a))
  | update E a => compileUpdate E.descriptor >>= Statement.prepare false (some (.ofEntity E a))
  | delete E key => compileDelete E.descriptor key >>= Statement.prepare false none
  | runCommand s arg => s.prepare false arg
  | executeText sql params =>
      (Statement.handwritten (.ofSql sql) sql (Executor.literalBindings params)).prepare false none

/-- Whether an operation enters a scope. -/
def entersScope (dialect : Dialect) (o : Operation) : Bool :=
  (o.prepare dialect).isOk

end Operation

/-- The state after a sequence of operations. -/
def Executor.runAll (x : Executor σ ρ) : List Operation → σ → σ
  | [], s => s
  | o :: os, s => runAll x os (o.run x s).state

/-- An executor whose provider keeps its calls. -/
def Executor.traced (x : Executor σ ρ) : Executor (Traced σ) ρ :=
  ⟨x.provider.traced, x.config⟩

/-! ### Watching -/

section Watching

variable (x : Executor σ ρ)

omit [DataRow ρ] in
theorem query_traced (sql : String) (params : List Param) (t : Traced σ) :
    x.traced.provider.query sql params t = ((x.provider.query sql params t.1).1,
      ((x.provider.query sql params t.1).2, t.2 ++ [.running sql params])) := rfl

theorem erases_fetch (E : EntityType α) (sql : String) (params : List Param) :
    Erases (x.traced.fetch E sql params) (x.fetch E sql params) := by
  intro t
  simp only [Executor.fetch, query_traced]
  obtain ⟨rows, s'⟩ := x.provider.query sql params t.1
  cases rows <;> rfl

theorem runsOnce_fetch (E : EntityType α) (sql : String) (params : List Param) :
    RunsOnce sql params (x.traced.fetch E sql params) := by
  intro t
  simp only [Executor.fetch, query_traced]
  cases (x.provider.query sql params t.1).1 <;> rfl

omit [DataRow ρ] in
theorem erases_command (sql : String) (params : List Param) :
    Erases (x.traced.command sql params) (x.command sql params) :=
  fun _ => rfl

omit [DataRow ρ] in
theorem runsOnce_command (sql : String) (params : List Param) :
    RunsOnce sql params (x.traced.command sql params) :=
  fun _ => rfl

theorem erases_runQuery (E : EntityType α) (s : Statement) (arg : Option Argument) :
    Erases (x.traced.runQuery E s arg) (x.runQuery E s arg) := by
  unfold Executor.runQuery
  split
  · exact .fail _
  · split
    · exact .fail _
    · exact (erases_fetch x E _ _).inScope.after _

omit [DataRow ρ] in
theorem erases_runCommand (s : Statement) (arg : Option Argument) :
    Erases (x.traced.runCommand s arg) (x.runCommand s arg) := by
  unfold Executor.runCommand
  split
  · exact .fail _
  · split
    · exact .fail _
    · exact (erases_command x _ _).inScope.after _

theorem Erases.compiled {compile : Except Error Statement}
    {watched : Statement → Action (Traced σ) α} {action : Statement → Action σ α}
    (h : ∀ s, Erases (watched s) (action s)) :
    Erases (match compile with | .error e => .fail e | .ok s => watched s)
      (match compile with | .error e => .fail e | .ok s => action s) := by
  cases compile with
  | error e => exact .fail e
  | ok s => exact h s

/-- Watching an operation changes nothing. -/
theorem Operation.erases_run (o : Operation) : Erases (o.run x.traced) (o.run x) := by
  cases o with
  | query | queryWith | queryAs => exact .compiled fun s => erases_runQuery x _ s _
  | runQuery E s arg => exact erases_runQuery x E s arg
  | queryText E sql params => exact erases_runQuery x E _ _
  | queryFirst E sql params =>
      intro t
      have ht := erases_runQuery x E
        (.handwritten .select sql (Executor.literalBindings params)) none t
      simp only [run, Executor.queryFirst, Executor.queryText, ← ht]
      rfl
  | insert | update | delete => exact .compiled fun s => erases_runCommand x s _
  | runCommand s arg => exact erases_runCommand x s arg
  | executeText sql params => exact erases_runCommand x _ _

end Watching

/-! ### One operation -/

/-- An action does nothing but to answer the error of its preparation, or it makes one scope for the
prepared statement. -/
structure IsScoped (x : Executor σ ρ) (prepared : Except Error (Statement × List Param))
    (action : Action (Traced σ) α) : Prop where
  refused : ∀ e, prepared = .error e → ∀ t, action t = ⟨.error e, t, []⟩
  entered : ∀ s params, prepared = .ok (s, params) → ∀ t, ∃ calls,
    (action t).state.2 = t.2 ++ calls ∧ IsScope s.sql params (x.provider.isOpen t.1) calls

section Step

variable {x : Executor σ ρ}

omit [DataRow ρ] in
theorem IsScoped.fail (e : Error) : IsScoped x (.error e) (Action.fail e : Action (Traced σ) α) :=
  ⟨fun _ h _ => by cases h; rfl, fun _ _ h => by cases h⟩

omit [DataRow ρ] in
theorem IsScoped.inScope {action : Action (Traced σ) α} (s : Statement) (params : List Param)
    (h : RunsOnce s.sql params action) (events : List Event) :
    IsScoped x (.ok (s, params)) ((x.traced.provider.inScope action).after events) := by
  refine ⟨fun e heq => ?_, fun s' params' heq t => ?_⟩
  · cases heq
  · cases heq
    exact exists_isScope h t

omit [DataRow ρ] in
/-- A statement is compiled before the rest of the preparation. -/
theorem IsScoped.compiled {compile : Except Error Statement}
    {prepare : Statement → Except Error (Statement × List Param)}
    {action : Statement → Action (Traced σ) α} (h : ∀ s, IsScoped x (prepare s) (action s)) :
    IsScoped x (compile >>= prepare)
      (match compile with | .error e => .fail e | .ok s => action s) := by
  cases compile with
  | error e => exact .fail e
  | ok s => exact h s

theorem isScoped_runQuery (E : EntityType α) (s : Statement) (arg : Option Argument) :
    IsScoped x (s.prepare true arg) (x.traced.runQuery E s arg) := by
  unfold Executor.runQuery Statement.prepare
  simp only [true_and]
  split
  · exact .fail _
  · cases Executor.parameters s arg with
    | error e => exact .fail e
    | ok params => exact .inScope s params (runsOnce_fetch x E _ _) _

omit [DataRow ρ] in
theorem isScoped_runCommand (s : Statement) (arg : Option Argument) :
    IsScoped x (s.prepare false arg) (x.traced.runCommand s arg) := by
  unfold Executor.runCommand Statement.prepare
  simp only [Bool.false_eq_true, false_and, or_false]
  split
  · exact .fail _
  · cases Executor.parameters s arg with
    | error e => exact .fail e
    | ok params => exact .inScope s params (runsOnce_command x _ _) _

/-- Every operation is refused before it calls the provider, or makes one scope. -/
theorem Operation.isScoped_run (o : Operation) :
    IsScoped x (o.prepare x.dialect) (o.run x.traced) := by
  cases o with
  | query | queryWith | queryAs => exact .compiled fun s => isScoped_runQuery _ s _
  | runQuery E s arg => exact isScoped_runQuery E s arg
  | queryText E sql params => exact isScoped_runQuery E _ _
  | queryFirst E sql params =>
      have h := isScoped_runQuery (x := x) E
        (.handwritten .select sql (Executor.literalBindings params)) none
      refine ⟨fun e he t => ?_, h.entered⟩
      have ht := h.refused e he t
      simp only [run, Executor.queryFirst, Executor.queryText, ht]
      rfl
  | insert | update | delete => exact .compiled fun s => isScoped_runCommand s _
  | runCommand s arg => exact isScoped_runCommand s arg
  | executeText sql params => exact isScoped_runCommand _ _

end Step

/-! ### Sequences of operations -/

/-- The calls of a sequence of operations from a state: an operation that is refused makes none and
leaves the state, every other one makes those of its own scope. -/
inductive IsRun (x : Executor σ ρ) : List Operation → σ → List ScopeCall → Prop
  | nil (s : σ) : IsRun x [] s []
  | refused {o os s calls e} (he : o.prepare x.dialect = .error e)
      (hresult : o.run x s = ⟨.error e, s, []⟩) (hrest : IsRun x os s calls) :
      IsRun x (o :: os) s calls
  | entered {o os s statement params scope calls}
      (hok : o.prepare x.dialect = .ok (statement, params))
      (hscope : IsScope statement.sql params (x.provider.isOpen s) scope)
      (hrest : IsRun x os (o.run x s).state calls) :
      IsRun x (o :: os) s (scope ++ calls)

theorem IsRun.isBalanced {x : Executor σ ρ} {os : List Operation} {s : σ}
    {calls : List ScopeCall} (h : IsRun x os s calls) :
    IsBalanced calls (os.countP (Operation.entersScope x.dialect)) := by
  induction h with
  | nil => exact .nil
  | @refused o os _ _ e he _ _ ih =>
      have hfalse : ¬ o.entersScope x.dialect = true := by
        rw [Operation.entersScope, he]
        exact Bool.false_ne_true
      rwa [List.countP_cons_of_neg hfalse]
  | @entered o os _ _ _ _ _ hok hscope _ ih =>
      have htrue : o.entersScope x.dialect = true := by
        rw [Operation.entersScope, hok]
        rfl
      rw [List.countP_cons_of_pos htrue, Nat.add_comm]
      exact hscope.isBalanced.append ih

/-- Watching a sequence of operations changes nothing, and its calls are those of scopes. -/
theorem exists_isRun (x : Executor σ ρ) (os : List Operation) (t : Traced σ) :
    (x.traced.runAll os t).1 = x.runAll os t.1 ∧
      ∃ calls, (x.traced.runAll os t).2 = t.2 ++ calls ∧ IsRun x os t.1 calls := by
  induction os generalizing t with
  | nil => exact ⟨rfl, [], (List.append_nil _).symm, .nil _⟩
  | cons o os ih =>
      have herase := o.erases_run x t
      have hstate : (o.run x.traced t).state.1 = (o.run x t.1).state :=
        congrArg Outcome.state herase
      obtain ⟨hrun, calls, hcalls, hrest⟩ := ih (o.run x.traced t).state
      rw [hstate] at hrun hrest
      refine ⟨hrun, ?_⟩
      cases hprepare : o.prepare x.dialect with
      | error e =>
          have hrefused := o.isScoped_run.refused e hprepare t
          rw [hrefused] at hstate hcalls herase
          refine ⟨calls, ?_, .refused hprepare herase.symm (hstate ▸ hrest)⟩
          rw [Executor.runAll, hrefused, hcalls]
      | ok prepared =>
          obtain ⟨scope, hlog, hscope⟩ := o.isScoped_run.entered _ _ hprepare t
          refine ⟨scope ++ calls, ?_, .entered hprepare hscope hrest⟩
          rw [Executor.runAll, hcalls, hlog, List.append_assoc]

/-- Over every sequence of operations on every provider, operations that are refused answer their
error and make no call, every other one makes one scope, and each scope is closed once unless
opening has failed. -/
theorem runAll_traced (x : Executor σ ρ) (os : List Operation) (s : σ) :
    (x.traced.runAll os (s, [])).1 = x.runAll os s ∧
      IsRun x os s (x.traced.runAll os (s, [])).2 ∧
      IsBalanced (x.traced.runAll os (s, [])).2
        (os.countP (Operation.entersScope x.dialect)) := by
  obtain ⟨hstate, calls, hcalls, hrun⟩ := exists_isRun x os (s, [])
  rw [List.nil_append] at hcalls
  rw [hcalls]
  exact ⟨hstate, hrun, hrun.isBalanced⟩

end EntitySql
