import EntitySql.Execution.Binding
import EntitySql.Execution.Config

/-!
# Providers and scopes

A provider owns one connection.  Work is done in a *scope*: the connection is opened unless it is
open, the work runs, and the connection is closed, whether or not the work succeeded.

A provider is described by what it does to a state of its own, so that every statement about scopes
holds for every provider.

## Main definitions

* `Event` : what is logged.
* `Outcome` : what an action leaves: a result, the state, and the logged events.
* `Provider` : the operations of a provider.
* `Provider.inScope` : an action in a scope.
-/

namespace EntitySql

/-- What is logged. -/
inductive Event where
  /-- A statement, before it runs. -/
  | statement (level : LogLevel) (kind : StatementKind) (params : Nat) (sql : String)
  | opened
  | closed
  /-- Closing failed after the work had failed. -/
  | closeFailed (error : String)
  /-- A row did not have a column of the table. -/
  | columnAbsent (table column : String)

/-- What an action on a state leaves. -/
structure Outcome (σ α : Type) where
  result : Except Error α
  state : σ
  events : List Event

/-- An action on a state. -/
abbrev Action (σ α : Type) : Type :=
  σ → Outcome σ α

variable {σ ρ α β : Type}

namespace Action

/-- The action that fails and changes nothing. -/
def fail (e : Error) : Action σ α := fun s =>
  ⟨.error e, s, []⟩

/-- An action, with events logged before it. -/
def after (events : List Event) (action : Action σ α) : Action σ α := fun s =>
  let o := action s
  ⟨o.result, o.state, events ++ o.events⟩

end Action

/-- The operations of a provider on its state. -/
structure Provider (σ ρ : Type) where
  isOpen : σ → Bool
  openUp : σ → Except Error Unit × σ
  close : σ → Except Error Unit × σ
  /-- Whether the connection can be reached. -/
  reach : σ → Except Error Unit
  /-- The state after the connection has been asked for. -/
  asked : σ → σ
  query : String → List Param → σ → Except Error (List ρ) × σ
  execute : String → List Param → σ → Except Error Nat × σ
  dialect : Dialect

/-- An error of opening or closing: it becomes a connection error with the given text, unless it is
a connection error already. -/
def Error.ofLifecycle (text : String) (e : Error) : Error :=
  if e.isConnection then e else .connection text (some (.failure e))

/-- The text of errors of opening. -/
def openingText : String :=
  "Error opening the database connection"

/-- The text of errors of closing. -/
def closingText : String :=
  "Error closing the database connection"

namespace Provider

variable (p : Provider σ ρ)

/-- Opens the connection unless it is open. -/
def ensureOpen : Action σ Unit := fun s =>
  if p.isOpen s then ⟨.ok (), s, []⟩
  else
    match p.openUp s with
    | (.ok (), s) => ⟨.ok (), s, [.opened]⟩
    | (.error e, s) => ⟨.error (e.ofLifecycle openingText), s, []⟩

/-- Runs the work if the connection can be reached. -/
def reached (work : Action σ α) : Action σ α := fun s =>
  match p.reach s with
  | .ok () => work (p.asked s)
  | .error e => ⟨.error e, p.asked s, []⟩

/-- The result of a scope from the results of the work and of closing.  An error of the work comes
first; if closing has failed too, that is only logged. -/
def settle : Except Error α → Except Error Unit → Except Error α × List Event
  | .ok a, .ok () => (.ok a, [])
  | .ok _, .error e => (.error e, [])
  | .error e, .ok () => (.error e, [])
  | .error e, .error closing => (.error e, [.closeFailed closing.message])

/-- Closes the connection behind the work. -/
def closeAfter (o : Outcome σ α) : Outcome σ α :=
  let (closing, s) := p.close o.state
  let (result, events) := settle o.result (closing.mapError (Error.ofLifecycle closingText))
  ⟨result, s, o.events ++ .closed :: events⟩

/-- An action in a scope.  If opening fails, nothing else is done. -/
def inScope (work : Action σ α) : Action σ α := fun s =>
  let opening := p.ensureOpen s
  match opening.result with
  | .error e => ⟨.error e, opening.state, opening.events⟩
  | .ok () =>
      let o := p.closeAfter (p.reached work opening.state)
      ⟨o.result, o.state, opening.events ++ o.events⟩

end Provider

end EntitySql
