import EntitySql.Entity.Structure
import EntitySql.Execution.Memory
import EntitySql.Proofs.Execution.Answer
import EntitySql.Proofs.Execution.Operation
import EntitySql.Proofs.Execution.Resolution

/-!
# Errors of operations

An operation fails with the error of its preparation, with a connection error, or with what the
connection or the mapping of rows answers while its statement runs. Operations that write entities
or run texts bring all values that they bind, so they never fail for lack of an argument.

## Main definitions

* `Executor.Raises` : the errors that are met while a statement runs.
* `Executor.Fails` : the errors of an operation.
* `Operation.bringsValues` : the operations that take no argument.

## Main results

* `Operation.fails_of_run` : where the error of an operation comes from.
* `Operation.prepare_ne_nullArgument` : operations that bring their values are prepared without an
  argument.
* `bind_resolves` : how bindings are resolved, and that these operations lack no argument.
-/

namespace EntitySql

variable {σ ρ α : Type} [DataRow ρ]

/-! ### Where errors come from -/

/-- An error that is met while a statement runs: the connection cannot be reached, or it refuses the
statement, or a row that it returns cannot be mapped. -/
inductive Executor.Raises (x : Executor σ ρ) (sql : String) (params : List Param) (e : Error) :
    Prop where
  | unreachable {s : σ} (h : x.provider.reach s = .error e) : Raises x sql params e
  | refusedQuery {s : σ} (h : (x.provider.query sql params s).1 = .error e) : Raises x sql params e
  | refusedCommand {s : σ} (h : (x.provider.execute sql params s).1 = .error e) :
      Raises x sql params e
  | unmapped {s : σ} {rows : List ρ} {α : Type} {E : EntityType α}
      (hrows : (x.provider.query sql params s).1 = .ok rows)
      (h : (E.mapRows rows).result = .error e) : Raises x sql params e

/-- The errors that an operation answers, from what its preparation gives. -/
inductive Executor.Fails (x : Executor σ ρ) (prepared : Except Error (Statement × List Param))
    (e : Error) : Prop where
  | unprepared (h : prepared = .error e) : Fails x prepared e
  | lifecycle {s : Statement} {params : List Param} (h : prepared = .ok (s, params))
      (he : e.isConnection = true) : Fails x prepared e
  | raised {s : Statement} {params : List Param} (h : prepared = .ok (s, params))
      (hraises : x.Raises s.sql params e) : Fails x prepared e

section Errors

variable {x : Executor σ ρ} {E : EntityType α} {stmt : Statement} {arg : Option Argument}
  {sql : String} {params : List Param} {s : σ} {e : Error}

omit [DataRow ρ] in
theorem IsReported.isConnection {text : String} {e' : Error} (h : IsReported text e e') :
    e'.isConnection = true := by
  cases h with
  | unchanged h => exact h
  | wrapped => rfl

omit [DataRow ρ] in
theorem Provider.exists_of_reached_error {p : Provider σ ρ} {work : Action σ α}
    (h : (p.reached work s).result = .error e) :
    p.reach s = .error e ∨ (work (p.asked s)).result = .error e := by
  rw [reached] at h
  cases hreach : p.reach s with
  | ok =>
      rw [hreach] at h
      exact .inr h
  | error e' =>
      rw [hreach] at h
      cases h
      exact .inl rfl

omit [DataRow ρ] in
/-- An error of a scope is one of its lifecycle, or of reaching the connection, or of the work. -/
theorem Provider.exists_of_inScope_error {p : Provider σ ρ} {work : Action σ α}
    (h : (p.inScope work s).result = .error e) :
    e.isConnection = true ∨
      ∃ s', p.reach s' = .error e ∨ (work (p.asked s')).result = .error e := by
  cases Provider.result_inScope_eq_iff.mp h with
  | openFailed _ _ he => exact .inl he.isConnection
  | closeFailed _ _ _ he => exact .inl he.isConnection
  | @workFailed _ s₁ _ _ hwork =>
      exact .inr ⟨s₁, p.exists_of_reached_error (Provider.works_iff.mp hwork).1⟩

theorem raises_fetch (h : (x.fetch E sql params s).result = .error e) : x.Raises sql params e := by
  rw [Executor.fetch] at h
  obtain ⟨answer, s', hquery⟩ : ∃ answer s', x.provider.query sql params s = (answer, s') :=
    ⟨_, _, rfl⟩
  have hanswer : (x.provider.query sql params s).1 = answer := congrArg Prod.fst hquery
  rw [hquery] at h
  cases answer with
  | error e' =>
      cases h
      exact .refusedQuery hanswer
  | ok rows => exact .unmapped hanswer h

theorem fails_inScope {work : Action σ α}
    (hwork : ∀ s, (work s).result = .error e → x.Raises stmt.sql params e) (events : List Event)
    (h : (((x.provider.inScope work).after events) s).result = .error e) :
    x.Fails (.ok (stmt, params)) e := by
  obtain hconnection | ⟨s', hreach | hwork'⟩ := Provider.exists_of_inScope_error h
  · exact .lifecycle rfl hconnection
  · exact .raised rfl (.unreachable hreach)
  · exact .raised rfl (hwork _ hwork')

theorem fails_fail {e' : Error} (h : ((Action.fail e' : Action σ α) s).result = .error e) :
    x.Fails (.error e') e := by
  cases h
  exact .unprepared rfl

theorem fails_runQuery (h : (x.runQuery E stmt arg s).result = .error e) :
    x.Fails (stmt.prepare true arg) e := by
  unfold Executor.runQuery at h
  simp only [Statement.prepare, true_and]
  split at h
  · next hempty =>
      rw [if_pos hempty]
      exact fails_fail h
  · next hempty =>
      rw [if_neg hempty]
      cases hparams : Executor.parameters stmt arg with
      | error e' => exact fails_fail (by rwa [hparams] at h)
      | ok params => exact fails_inScope (fun _ => raises_fetch) _ (by rwa [hparams] at h)

theorem fails_runCommand (h : (x.runCommand stmt arg s).result = .error e) :
    x.Fails (stmt.prepare false arg) e := by
  unfold Executor.runCommand at h
  simp only [Statement.prepare, Bool.false_eq_true, false_and, or_false]
  split at h
  · next hempty =>
      rw [if_pos hempty]
      exact fails_fail h
  · next hempty =>
      rw [if_neg hempty]
      cases hparams : Executor.parameters stmt arg with
      | error e' => exact fails_fail (by rwa [hparams] at h)
      | ok params => exact fails_inScope (fun _ => .refusedCommand) _ (by rwa [hparams] at h)

/-- A statement is compiled before the rest of the preparation. -/
theorem fails_compiled {compile : Except Error Statement}
    {prepare : Statement → Except Error (Statement × List Param)} {action : Statement → Action σ α}
    (hprepare : ∀ stmt, (action stmt s).result = .error e → x.Fails (prepare stmt) e)
    (h : ((match compile with | .error e => .fail e | .ok stmt => action stmt : Action σ α)
      s).result = .error e) : x.Fails (compile >>= prepare) e := by
  cases compile with
  | error e' => exact fails_fail h
  | ok stmt => exact hprepare stmt h

/-- The error of an operation is that of its preparation, or is met while its statement runs. -/
theorem Operation.fails_of_run {o : Operation} (h : (o.run x s).result = .error e) :
    x.Fails (o.prepare x.dialect) e := by
  cases o with
  | query | queryWith | queryAs => exact fails_compiled (fun _ => fails_runQuery) h
  | runQuery E stmt arg => exact fails_runQuery h
  | queryText E sql params => exact fails_runQuery h
  | queryFirst E sql params =>
      have hquery : (x.queryText E sql params s).result = .error e := map_eq_error_iff.mp h
      exact fails_runQuery hquery
  | insert | update | delete => exact fails_compiled (fun _ => fails_runCommand) h
  | runCommand stmt arg => exact fails_runCommand h
  | executeText sql params => exact fails_runCommand h

end Errors

/-! ### Operations that bring their values -/

/-- Whether an operation brings all values that it binds: it writes an entity, deletes by a key, or
runs a text with its parameters. -/
def Operation.bringsValues : Operation → Bool
  | insert .. | update .. | delete .. | queryText .. | queryFirst .. | executeText .. => true
  | query .. | queryWith .. | queryAs .. | runQuery .. | runCommand .. => false

section Values

variable {d : Descriptor} {dialect : Dialect} {e : Error} {w : String}

/-- Nothing is missing if there is an argument or all values are known. -/
theorem exists_parameters {s : Statement} {source : Option ArgumentSource}
    (h : source = none → ∀ b ∈ s.bindings, b.known ≠ none) :
    ∃ params, Executor.parameters s (source.map (·.argument)) = .ok params := by
  by_cases hempty : s.bindings = []
  · exact ⟨[], if_pos hempty⟩
  · exact ⟨_, (if_neg hempty).trans (Statement.bind_of_bound hempty h)⟩

/-- If nothing is missing, then only an unfit statement is refused. -/
theorem Statement.eq_notInitialized_of_prepare {s : Statement} {isQuery : Bool}
    (source : Option ArgumentSource) (hvalues : source = none → ∀ b ∈ s.bindings, b.known ≠ none)
    (h : s.prepare isQuery (source.map (·.argument)) = .error e) : e = .notInitialized := by
  rw [prepare] at h
  split at h
  · exact (Except.error.inj h).symm
  · obtain ⟨params, hparams⟩ := exists_parameters hvalues
    rw [hparams] at h
    cases h

theorem known_of_mem_literalBindings {params : List Param} :
    ∀ b ∈ Executor.literalBindings params, b.known ≠ none := by
  intro b hb
  obtain ⟨p, -, rfl⟩ := List.mem_map.mp hb
  exact Option.some_ne_none _

theorem keyField_ne_nullArgument : d.keyField ≠ .error (.nullArgument w) := by
  unfold Descriptor.keyField
  split <;> exact fun h => nomatch h

theorem compileInsert_ne_nullArgument : compileInsert d ≠ .error (.nullArgument w) := by
  unfold compileInsert
  dsimp only
  split <;> exact fun h => nomatch h

theorem compileUpdate_ne_nullArgument : compileUpdate d ≠ .error (.nullArgument w) := by
  intro h
  obtain hkey | ⟨key, -, hrest⟩ := bind_eq_error_iff.mp h
  · exact keyField_ne_nullArgument hkey
  · dsimp only at hrest
    split at hrest <;> cases hrest

theorem compileDelete_ne_nullArgument {key : Value} :
    compileDelete d key ≠ .error (.nullArgument w) := by
  intro h
  obtain hkey | ⟨key, -, hrest⟩ := bind_eq_error_iff.mp h
  · exact keyField_ne_nullArgument hkey
  · cases hrest

theorem known_of_compileDelete {key : Value} {s : Statement} (h : compileDelete d key = .ok s) :
    ∀ b ∈ s.bindings, b.known ≠ none := by
  obtain ⟨field, -, hs⟩ := bind_eq_ok_iff.mp h
  cases hs
  intro b hb
  rw [List.mem_singleton.mp hb]
  exact Option.some_ne_none _

/-- A compiled statement whose values are all there is refused by its compilation or as unfit. -/
theorem compiled_ne_nullArgument {compile : Except Error Statement} {isQuery : Bool}
    (source : Option ArgumentSource) (hcompile : compile ≠ .error (.nullArgument w))
    (hvalues : ∀ s, compile = .ok s → source = none → ∀ b ∈ s.bindings, b.known ≠ none) :
    compile >>= Statement.prepare isQuery (source.map (·.argument)) ≠
      .error (.nullArgument w) := by
  intro h
  obtain hfailed | ⟨s, hs, hprepare⟩ := bind_eq_error_iff.mp h
  · exact hcompile hfailed
  · cases Statement.eq_notInitialized_of_prepare source (hvalues s hs) hprepare

theorem handwritten_ne_nullArgument {kind : StatementKind} {sql : String} {params : List Param}
    {isQuery : Bool} : (Statement.handwritten kind sql
      (Executor.literalBindings params)).prepare isQuery none ≠ .error (.nullArgument w) := by
  intro h
  cases Statement.eq_notInitialized_of_prepare none (fun _ => known_of_mem_literalBindings) h

/-- Operations that bring their values are never refused for lack of an argument. -/
theorem Operation.prepare_ne_nullArgument {o : Operation} (h : o.bringsValues = true) :
    o.prepare dialect ≠ .error (.nullArgument w) := by
  cases o with
  | insert E a =>
      exact compiled_ne_nullArgument (some (.entity E a)) compileInsert_ne_nullArgument
        fun _ _ hnone => (nomatch hnone)
  | update E a =>
      exact compiled_ne_nullArgument (some (.entity E a)) compileUpdate_ne_nullArgument
        fun _ _ hnone => (nomatch hnone)
  | delete E key =>
      exact compiled_ne_nullArgument none compileDelete_ne_nullArgument
        fun _ hs _ => known_of_compileDelete hs
  | queryText | queryFirst | executeText => exact handwritten_ne_nullArgument
  | query | queryWith | queryAs | runQuery | runCommand => cases h

end Values

/-- A statement is bound to what its bindings resolve to, each in its own place, or is refused for
want of bindings or of an argument. Operations that bring their values are never refused for lack of
an argument: such an error comes from the connection or from mapping rows. -/
theorem bind_resolves (x : Executor σ ρ) :
    (∀ (stmt : Statement) (source : Option ArgumentSource) (result : Except Error (List Param)),
      stmt.bind (source.map (·.argument)) = result ↔ stmt.Binds source result) ∧
    ∀ o : Operation, o.bringsValues = true → ∀ w : String,
      o.prepare x.dialect ≠ .error (.nullArgument w) ∧
      ∀ s : σ, (o.run x s).result = .error (.nullArgument w) → ∃ stmt params,
        o.prepare x.dialect = .ok (stmt, params) ∧ x.Raises stmt.sql params (.nullArgument w) := by
  refine ⟨fun _ _ _ => Statement.bind_eq_iff, fun o ho w => ?_⟩
  have hprepare : o.prepare x.dialect ≠ .error (.nullArgument w) := o.prepare_ne_nullArgument ho
  refine ⟨hprepare, fun s h => ?_⟩
  cases Operation.fails_of_run h with
  | unprepared hfailed => exact absurd hfailed hprepare
  | lifecycle _ hconnection => cases hconnection
  | raised hok hraises => exact ⟨_, _, hok, hraises⟩

/-- A provider that answers every command as if an argument were missing. -/
def refusingProvider : Provider Memory Record :=
  { Memory.provider .postgres with execute := fun _ _ m => (.error (.nullArgument "row"), m) }

theorem bind_resolves_refusedDelete :
    let x : Executor Memory Record := ⟨refusingProvider, .standard⟩
    let E := (⟨"people", [⟨"id", "id", true⟩]⟩ : Mapping).entityType []
    let o := Operation.delete E (.text "7")
    o.bringsValues = true ∧ (o.run x Memory.fresh).result = .error (.nullArgument "row") ∧
      ∃ stmt params, o.prepare x.dialect = .ok (stmt, params) ∧
        x.Raises stmt.sql params (.nullArgument "row") :=
  ⟨rfl, rfl, ((bind_resolves _).2 _ rfl "row").2 Memory.fresh rfl⟩

end EntitySql
