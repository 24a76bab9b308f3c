import EntitySql.Execution.Executor
import EntitySql.Proofs.Execution.Scope
import EntitySql.Proofs.Row.Mapping

/-!
# What scopes answer

A scope answers with the value of its work if the connection was opened, reached and closed and the
work succeeded. Otherwise it answers with one error: that of opening, or else that of reaching the
connection or of the work, or else that of closing. Errors of opening and closing are reported as
connection errors; the error of the work stays as it is, also if closing fails as well.

## Main definitions

* `IsReported` : how an error of opening or closing is reported.
* `Provider.IsOpened`, `Provider.Works` : an open connection, and the work on it.
* `Provider.Answers` : what a scope answers.

## Main results

* `Provider.result_inScope_eq_iff` : the result of a scope.
* `Executor.result_runQuery_eq_ok_iff` : when a query gives entities.
* `scope_answers` : the two together.
-/

namespace EntitySql

variable {σ ρ α : Type}

/-! ### Reported errors -/

/-- How an error of opening or closing is reported: a connection error as it is, and any other one
as the cause of a connection error with a text. -/
inductive IsReported (text : String) (e : Error) : Error → Prop where
  | unchanged (h : e.isConnection = true) : IsReported text e e
  | wrapped (h : e.isConnection = false) : IsReported text e (.connection text (some (.failure e)))

theorem isReported_iff {text : String} {e e' : Error} :
    IsReported text e e' ↔ e.ofLifecycle text = e' := by
  constructor
  · rintro (h | h)
    · exact if_pos h
    · exact if_neg (by rw [h]; decide)
  · rintro rfl
    unfold Error.ofLifecycle
    split
    · next h => exact .unchanged h
    · next h => exact .wrapped (by simpa using h)

namespace Provider

/-! ### Answers -/

/-- The states in which a connection is open for a scope: it was open, or it has been opened. -/
inductive IsOpened (p : Provider σ ρ) (s : σ) : σ → Prop where
  | already (h : p.isOpen s = true) : IsOpened p s s
  | opened {s' : σ} (h : p.isOpen s = false) (hup : p.openUp s = (.ok (), s')) : IsOpened p s s'

/-- What the work gives on an open connection, and the state that it leaves: if the connection
cannot be reached, then the error of reaching it. -/
inductive Works (p : Provider σ ρ) (work : Action σ α) (s : σ) : Except Error α → σ → Prop where
  | unreachable {e : Error} (h : p.reach s = .error e) : Works p work s (.error e) (p.asked s)
  | worked (h : p.reach s = .ok ()) :
      Works p work s (work (p.asked s)).result (work (p.asked s)).state

/-- What a scope answers. The first failure gives the error. -/
inductive Answers (p : Provider σ ρ) (work : Action σ α) (s : σ) : Except Error α → Prop where
  | openFailed {e e' : Error} {s' : σ} (h : p.isOpen s = false)
      (hup : p.openUp s = (.error e, s'))
      (he : IsReported "Error opening the database connection" e e') : Answers p work s (.error e')
  /-- Whether closing succeeds does not matter. -/
  | workFailed {e : Error} {s₁ s₂ : σ} (hopen : p.IsOpened s s₁)
      (hwork : p.Works work s₁ (.error e) s₂) : Answers p work s (.error e)
  | closeFailed {a : α} {e e' : Error} {s₁ s₂ : σ} (hopen : p.IsOpened s s₁)
      (hwork : p.Works work s₁ (.ok a) s₂) (hclose : (p.close s₂).1 = .error e)
      (he : IsReported "Error closing the database connection" e e') : Answers p work s (.error e')
  | succeeded {a : α} {s₁ s₂ : σ} (hopen : p.IsOpened s s₁)
      (hwork : p.Works work s₁ (.ok a) s₂) (hclose : (p.close s₂).1 = .ok ()) :
      Answers p work s (.ok a)

/-! ### Steps -/

section Steps

variable {p : Provider σ ρ} {s s₁ s₂ : σ} {work : Action σ α} {result : Except Error α}

theorem works_iff : p.Works work s result s₁ ↔
    (p.reached work s).result = result ∧ (p.reached work s).state = s₁ := by
  unfold reached
  constructor
  · rintro (h | h) <;> rw [h] <;> exact ⟨rfl, rfl⟩
  · split
    · next h =>
        rintro ⟨rfl, rfl⟩
        exact .worked h
    · next h =>
        rintro ⟨rfl, rfl⟩
        exact .unreachable h

/-- Work that has failed is answered with its error, and work that has succeeded with its value or
the error of closing. -/
theorem result_closeAfter (o : Outcome σ α) :
    (p.closeAfter o).result = o.result >>= fun a =>
      ((p.close o.state).1.mapError (Error.ofLifecycle closingText)).map fun _ => a := by
  unfold closeAfter
  obtain ⟨closing, s'⟩ := p.close o.state
  cases o.result <;> cases closing <;> rfl

/-- On an open connection a scope answers with what the work gives, if closing does not fail. -/
theorem result_inScope_of_isOpened (hopen : p.IsOpened s s₁)
    (hwork : p.Works work s₁ result s₂) :
    (p.inScope work s).result = result >>= fun a =>
      ((p.close s₂).1.mapError (Error.ofLifecycle closingText)).map fun _ => a := by
  obtain ⟨rfl, rfl⟩ := works_iff.mp hwork
  cases hopen with
  | already h => rw [inScope_of_ok (ensureOpen_of_isOpen h), result_closeAfter]
  | opened h hup => rw [inScope_of_ok (ensureOpen_of_openUp_ok h hup), result_closeAfter]

theorem answers_of_isOpened (hopen : p.IsOpened s s₁) (hwork : p.Works work s₁ result s₂) :
    p.Answers work s (p.inScope work s).result := by
  rw [result_inScope_of_isOpened hopen hwork]
  cases result with
  | error e => exact .workFailed hopen hwork
  | ok a =>
      cases hclose : (p.close s₂).1 with
      | ok => exact .succeeded hopen hwork hclose
      | error e => exact .closeFailed hopen hwork hclose (isReported_iff.mpr rfl)

/-- Every scope answers. -/
theorem answers_inScope (p : Provider σ ρ) (work : Action σ α) (s : σ) :
    p.Answers work s (p.inScope work s).result := by
  cases hopen : p.isOpen s with
  | true => exact answers_of_isOpened (.already hopen) (works_iff.mpr ⟨rfl, rfl⟩)
  | false =>
      obtain ⟨opening, s', hup⟩ : ∃ opening s', p.openUp s = (opening, s') := ⟨_, _, rfl⟩
      cases opening with
      | ok => exact answers_of_isOpened (.opened hopen hup) (works_iff.mpr ⟨rfl, rfl⟩)
      | error e =>
          rw [inScope_of_error (ensureOpen_of_openUp_error hopen hup)]
          exact .openFailed hopen hup (isReported_iff.mpr rfl)

/-- The result of a scope is what it answers. -/
theorem result_inScope_eq_iff :
    (p.inScope work s).result = result ↔ p.Answers work s result := by
  refine ⟨fun h => h ▸ p.answers_inScope work s, fun h => ?_⟩
  cases h with
  | openFailed h hup he =>
      rw [inScope_of_error (ensureOpen_of_openUp_error h hup)]
      exact congrArg Except.error (isReported_iff.mp he)
  | workFailed hopen hwork => exact result_inScope_of_isOpened hopen hwork
  | closeFailed hopen hwork hclose he =>
      rw [result_inScope_of_isOpened hopen hwork, hclose]
      exact congrArg Except.error (isReported_iff.mp he)
  | succeeded hopen hwork hclose => rw [result_inScope_of_isOpened hopen hwork, hclose]; rfl

theorem works_ok_iff {a : α} : p.Works work s (.ok a) s₁ ↔ p.reach s = .ok () ∧
    (work (p.asked s)).result = .ok a ∧ (work (p.asked s)).state = s₁ := by
  rw [works_iff, reached]
  split
  · next h => simp [h]
  · next h => simp [h]

/-- A scope gives a value exactly if every step of it succeeds. -/
theorem result_inScope_eq_ok_iff {a : α} : (p.inScope work s).result = .ok a ↔
    ∃ s₁ s₂, p.IsOpened s s₁ ∧ p.Works work s₁ (.ok a) s₂ ∧ (p.close s₂).1 = .ok () := by
  rw [result_inScope_eq_iff]
  constructor
  · intro h
    cases h with
    | succeeded hopen hwork hclose => exact ⟨_, _, hopen, hwork, hclose⟩
  · rintro ⟨s₁, s₂, hopen, hwork, hclose⟩
    exact .succeeded hopen hwork hclose

end Steps

end Provider

/-! ### Queries -/

namespace Executor

variable [DataRow ρ] {x : Executor σ ρ} {s s' : σ} {E : EntityType α} {es : List α}

theorem result_fetch_eq_ok_iff {sql : String} {params : List Param} :
    (x.fetch E sql params s).result = .ok es ∧ (x.fetch E sql params s).state = s' ↔
      ∃ rows, x.provider.query sql params s = (.ok rows, s') ∧
        List.Forall₂ (fun row e => (E.mapRow row).result = .ok e) rows es := by
  unfold fetch
  obtain ⟨answer, s₁⟩ := x.provider.query sql params s
  cases answer with
  | error e => simp
  | ok rows => simp [E.mapRows_eq_ok_iff, and_comm]

/-- A query gives entities exactly if it is a select statement, its parameters are bound, every step
of its scope succeeds, and the rows that the connection gives are mapped to them, row by row. -/
theorem result_runQuery_eq_ok_iff {stmt : Statement} {arg : Option Argument} :
    (x.runQuery E stmt arg s).result = .ok es ↔
      stmt.isEmpty = false ∧ stmt.kind = .select ∧ ∃ params s₁ s₂ rows,
        parameters stmt arg = .ok params ∧ x.provider.IsOpened s s₁ ∧
        x.provider.reach s₁ = .ok () ∧
        x.provider.query stmt.sql params (x.provider.asked s₁) = (.ok rows, s₂) ∧
        (x.provider.close s₂).1 = .ok () ∧
        List.Forall₂ (fun row e => (E.mapRow row).result = .ok e) rows es := by
  unfold runQuery
  split
  · next h =>
      refine ⟨fun h => (nomatch h), fun ⟨hempty, hselect, _⟩ => ?_⟩
      rcases h with h | h
      · rw [hempty] at h
        cases h
      · exact absurd hselect h
  · next h =>
      obtain ⟨hempty, hselect⟩ := not_or.mp h
      rw [Bool.not_eq_true] at hempty
      rw [ne_eq, not_not] at hselect
      simp only [hempty, hselect, true_and]
      cases hparams : parameters stmt arg with
      | error e => simp [Action.fail]
      | ok params =>
          -- the statement is announced before the scope, which does not change the result
          show (x.provider.inScope (x.fetch E stmt.sql params) s).result = .ok es ↔ _
          rw [Provider.result_inScope_eq_ok_iff]
          constructor
          · rintro ⟨s₁, s₂, hopen, hwork, hclose⟩
            obtain ⟨hreach, hfetch⟩ := Provider.works_ok_iff.mp hwork
            obtain ⟨rows, hquery, hrows⟩ := result_fetch_eq_ok_iff.mp hfetch
            exact ⟨params, s₁, s₂, rows, rfl, hopen, hreach, hquery, hclose, hrows⟩
          · rintro ⟨_, s₁, s₂, rows, hsame, hopen, hreach, hquery, hclose, hrows⟩
            cases hsame
            have hfetch := result_fetch_eq_ok_iff.mpr ⟨rows, hquery, hrows⟩
            exact ⟨s₁, s₂, hopen, Provider.works_ok_iff.mpr ⟨hreach, hfetch⟩, hclose⟩

end Executor

/-- A scope answers with the value of its work if every step succeeds, and else with the error of
the first step that fails; only errors of opening and closing are reported in other words. A query
gives one entity for each row that the connection gives, in the order of the rows, and nothing else
is taken for entities. -/
theorem scope_answers [DataRow ρ] (p : Provider σ ρ) (s : σ) :
    (∀ {α : Type} (work : Action σ α) (result : Except Error α),
      (p.inScope work s).result = result ↔ p.Answers work s result) ∧
    ∀ {α : Type} (config : Config) (E : EntityType α) (stmt : Statement) (arg : Option Argument)
      (es : List α), ((⟨p, config⟩ : Executor σ ρ).runQuery E stmt arg s).result = .ok es ↔
        stmt.isEmpty = false ∧ stmt.kind = .select ∧ ∃ params s₁ s₂ rows,
          Executor.parameters stmt arg = .ok params ∧ p.IsOpened s s₁ ∧ p.reach s₁ = .ok () ∧
          p.query stmt.sql params (p.asked s₁) = (.ok rows, s₂) ∧ (p.close s₂).1 = .ok () ∧
          List.Forall₂ (fun row e => (E.mapRow row).result = .ok e) rows es :=
  ⟨fun _ _ => Provider.result_inScope_eq_iff, fun _ _ _ _ _ => Executor.result_runQuery_eq_ok_iff⟩

end EntitySql
