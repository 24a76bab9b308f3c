import EntitySql.Proofs.Execution.Scope

/-!
# Traces of scopes

A provider is watched through a second one that does the same and keeps a list of the calls it got.
Watching changes nothing, and the calls of one scope have one of a few forms: opening fails and that
is all, or else the connection is asked for, at most one statement runs, and closing comes last.

## Main definitions

* `ScopeCall` : a call that a provider gets.
* `Provider.traced` : a provider that keeps its calls.
* `IsScope` : the calls of one scope.
* `IsBalanced` : how often scopes are closed.

## Main results

* `Erases.inScope` : watching changes nothing.
* `exists_isScope` : a scope around a statement makes the calls of a scope.
* `IsScope.isBalanced` : a scope is closed once unless opening has failed.
-/

namespace EntitySql

variable {σ ρ α : Type}

/-- A call that a provider gets, with the success of those that can keep a scope from running. -/
inductive ScopeCall where
  | opening (succeeded : Bool)
  /-- The connection is asked for. -/
  | reaching (succeeded : Bool)
  | running (sql : String) (params : List Param)
  | closing

namespace ScopeCall

/-- Whether a call closes the connection. -/
def isClosing : ScopeCall → Bool
  | closing => true
  | _ => false

/-- Whether a call runs a statement. -/
def isRunning : ScopeCall → Bool
  | running _ _ => true
  | _ => false

/-- Whether a call opens the connection, with the given success. -/
def isOpening (succeeded : Bool) : ScopeCall → Bool
  | opening b => b == succeeded
  | _ => false

end ScopeCall

/-- A state with the calls that were made. -/
abbrev Traced (σ : Type) : Type :=
  σ × List ScopeCall

/-- A provider that does what another one does and keeps the calls. -/
def Provider.traced (p : Provider σ ρ) : Provider (Traced σ) ρ where
  isOpen t := p.isOpen t.1
  openUp t := ((p.openUp t.1).1, (p.openUp t.1).2, t.2 ++ [.opening (p.openUp t.1).1.isOk])
  close t := ((p.close t.1).1, (p.close t.1).2, t.2 ++ [.closing])
  reach t := p.reach t.1
  asked t := (p.asked t.1, t.2 ++ [.reaching (p.reach t.1).isOk])
  query sql params t :=
    ((p.query sql params t.1).1, (p.query sql params t.1).2, t.2 ++ [.running sql params])
  execute sql params t :=
    ((p.execute sql params t.1).1, (p.execute sql params t.1).2, t.2 ++ [.running sql params])
  dialect := p.dialect

namespace Provider

variable {p : Provider σ ρ} {s s' : σ}

theorem openUp_traced (log : List ScopeCall) {r : Except Error Unit} (h : p.openUp s = (r, s')) :
    p.traced.openUp (s, log) = (r, (s', log ++ [.opening r.isOk])) := by
  simp [traced, h]

end Provider

/-! ### Watching -/

/-- What an action leaves, without the calls. -/
def Outcome.erase (o : Outcome (Traced σ) α) : Outcome σ α :=
  ⟨o.result, o.state.1, o.events⟩

/-- A watched action does what the other one does. -/
def Erases (watched : Action (Traced σ) α) (action : Action σ α) : Prop :=
  ∀ t, (watched t).erase = action t.1

theorem Erases.fail (e : Error) :
    Erases (Action.fail e : Action (Traced σ) α) (Action.fail e : Action σ α) :=
  fun _ => rfl

theorem Erases.after {watched : Action (Traced σ) α} {action : Action σ α}
    (h : Erases watched action) (events : List Event) :
    Erases (watched.after events) (action.after events) := by
  intro t
  have ht := h t
  simp only [Action.after, ← ht]
  rfl

/-- A watched provider takes the steps of the other one. -/
theorem Provider.isImage_traced (p : Provider σ ρ) : p.traced.IsImage Prod.fst p :=
  ⟨fun _ => rfl, fun _ => rfl, fun _ => rfl, fun _ => rfl, fun _ => rfl⟩

/-- Watching a scope changes nothing. -/
theorem Erases.inScope {p : Provider σ ρ} {watched : Action (Traced σ) α} {action : Action σ α}
    (h : Erases watched action) : Erases (p.traced.inScope watched) (p.inScope action) := fun t =>
  (p.isImage_traced.inScope (fun t => (h t).symm) t).symm

/-! ### Calls of a scope -/

/-- The calls behind opening: the connection cannot be reached, or the statement runs; either way
closing comes last. -/
inductive IsOpenPart (sql : String) (params : List Param) : List ScopeCall → Prop
  | unreachable : IsOpenPart sql params [.reaching false, .closing]
  | ran : IsOpenPart sql params [.reaching true, .running sql params, .closing]

/-- The calls of a scope with a statement, for a connection that is open before it or not: only a
closed one is opened, and nothing follows if that fails. -/
inductive IsScope (sql : String) (params : List Param) : Bool → List ScopeCall → Prop
  | refused : IsScope sql params false [.opening false]
  | opened {calls} (h : IsOpenPart sql params calls) :
      IsScope sql params false (.opening true :: calls)
  | wasOpen {calls} (h : IsOpenPart sql params calls) : IsScope sql params true calls

section Calls

variable {sql : String} {params : List Param}

/-- The calls of a number of scopes, counted: each of them is closed once unless opening it has
failed, and what is opened or runs a statement is closed. -/
structure IsBalanced (calls : List ScopeCall) (scopes : Nat) : Prop where
  scopes : calls.countP ScopeCall.isClosing + calls.countP (ScopeCall.isOpening false) = scopes
  openings : calls.countP (ScopeCall.isOpening true) ≤ calls.countP ScopeCall.isClosing
  runs : calls.countP ScopeCall.isRunning ≤ calls.countP ScopeCall.isClosing

theorem IsBalanced.nil : IsBalanced [] 0 := ⟨rfl, Nat.le_refl 0, Nat.le_refl 0⟩

theorem IsBalanced.append {calls calls' : List ScopeCall} {m n : Nat} (h : IsBalanced calls m)
    (h' : IsBalanced calls' n) : IsBalanced (calls ++ calls') (m + n) := by
  obtain ⟨hscopes, hopenings, hruns⟩ := h
  obtain ⟨hscopes', hopenings', hruns'⟩ := h'
  constructor <;> simp only [List.countP_append] <;> omega

theorem IsScope.isBalanced {wasOpen : Bool} {calls : List ScopeCall}
    (h : IsScope sql params wasOpen calls) : IsBalanced calls 1 := by
  cases h with
  | refused => exact ⟨rfl, Nat.le_refl 0, Nat.le_refl 0⟩
  | opened h =>
      cases h with
      | unreachable => exact ⟨rfl, Nat.le_refl 1, Nat.zero_le 1⟩
      | ran => exact ⟨rfl, Nat.le_refl 1, Nat.le_refl 1⟩
  | wasOpen h =>
      cases h with
      | unreachable => exact ⟨rfl, Nat.zero_le 1, Nat.zero_le 1⟩
      | ran => exact ⟨rfl, Nat.zero_le 1, Nat.le_refl 1⟩

/-- An action that makes one call, which runs the statement. -/
def RunsOnce (sql : String) (params : List Param) (action : Action (Traced σ) α) : Prop :=
  ∀ t, (action t).state.2 = t.2 ++ [.running sql params]

variable {p : Provider σ ρ} {action : Action (Traced σ) α}

theorem exists_isOpenPart (h : RunsOnce sql params action) (t : Traced σ) :
    ∃ calls, (p.traced.closeAfter (p.traced.reached action t)).state.2 = t.2 ++ calls ∧
      IsOpenPart sql params calls := by
  have hclose (o : Outcome (Traced σ) α) :
      (p.traced.closeAfter o).state.2 = o.state.2 ++ [.closing] := rfl
  rw [hclose]
  cases hreach : p.reach t.1 with
  | error e =>
      refine ⟨_, ?_, .unreachable⟩
      simp [Provider.reached, Provider.traced, hreach, Except.isOk, Except.toBool]
  | ok =>
      refine ⟨_, ?_, .ran⟩
      simp [Provider.reached, Provider.traced, hreach, h _, Except.isOk, Except.toBool]

/-- A scope around a statement makes the calls of a scope. -/
theorem exists_isScope (h : RunsOnce sql params action) (t : Traced σ) :
    ∃ calls, (p.traced.inScope action t).state.2 = t.2 ++ calls ∧
      IsScope sql params (p.isOpen t.1) calls := by
  obtain ⟨s, log⟩ := t
  cases hopen : p.isOpen s with
  | true =>
      obtain ⟨calls, hcalls, hpart⟩ := exists_isOpenPart (p := p) h (s, log)
      refine ⟨calls, ?_, .wasOpen hpart⟩
      have htraced : p.traced.ensureOpen (s, log) = ⟨.ok (), (s, log), []⟩ :=
        Provider.ensureOpen_of_isOpen hopen
      rw [Provider.inScope_of_ok htraced, hcalls]
  | false =>
      obtain ⟨opening, s', hup⟩ : ∃ opening s', p.openUp s = (opening, s') := ⟨_, _, rfl⟩
      have hclosed : p.traced.isOpen (s, log) = false := hopen
      have htraced := Provider.openUp_traced log hup
      cases opening with
      | error e =>
          refine ⟨_, ?_, .refused⟩
          rw [Provider.inScope_of_error (Provider.ensureOpen_of_openUp_error hclosed htraced)]
          rfl
      | ok =>
          obtain ⟨calls, hcalls, hpart⟩ :=
            exists_isOpenPart (p := p) h (s', log ++ [.opening true])
          refine ⟨_, ?_, .opened hpart⟩
          rw [Provider.inScope_of_ok (Provider.ensureOpen_of_openUp_ok hclosed htraced)]
          exact hcalls.trans (List.append_assoc log [.opening true] calls)

end Calls

end EntitySql
