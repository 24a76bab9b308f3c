import EntitySql.Query.Select
import EntitySql.Query.Write
import EntitySql.Row.Mapping
import EntitySql.Execution.Provider

/-!
# Executors

An executor compiles a description, binds its argument, runs the statement in a scope of its
provider, and maps the rows.  What fails before the scope leaves the provider alone.

## Main definitions

* `Executor` : a provider with a configuration.
* `Executor.runQuery`, `Executor.runCommand` : a statement that returns rows, and one that returns
  the number of rows it changed.
* `Executor.query`, `Executor.insert`, … : the operations on entities.
* `Executor.queryText`, `Executor.executeText` : statements written by hand.
-/

namespace EntitySql

/-- A provider with a configuration. -/
structure Executor (σ ρ : Type) where
  provider : Provider σ ρ
  config : Config

namespace Executor

variable {σ ρ α : Type} [DataRow ρ] (x : Executor σ ρ)

/-- The dialect of compiled statements: the configured one, or else the provider's. -/
def dialect : Dialect :=
  x.config.dialect.getD x.provider.dialect

/-- The parameters of a statement; none if it has no bindings. -/
def parameters (s : Statement) (arg : Option Argument) : Except Error (List Param) :=
  if s.bindings = [] then .ok [] else s.bind arg

/-- The events that announce a statement. -/
def announcement (s : Statement) (params : List Param) : List Event :=
  if x.config.logSql then
    [.statement x.config.logLevel s.kind params.length (x.config.loggedSql s.sql)]
  else []

/-- A query on the connection, with its rows mapped. -/
def fetch (E : EntityType α) (sql : String) (params : List Param) : Action σ (List α) := fun s =>
  match x.provider.query sql params s with
  | (.error e, s) => ⟨.error e, s, []⟩
  | (.ok rows, s) =>
      let mapped := E.mapRows rows
      ⟨mapped.result, s, mapped.absent.map (.columnAbsent E.descriptor.table)⟩

/-- A command on the connection. -/
def command (sql : String) (params : List Param) : Action σ Nat := fun s =>
  let (result, s) := x.provider.execute sql params s
  ⟨result, s, []⟩

/-- Runs a select statement and maps its rows. -/
def runQuery (E : EntityType α) (s : Statement) (arg : Option Argument) : Action σ (List α) :=
  if s.isEmpty ∨ s.kind ≠ .select then .fail .notInitialized
  else
    match parameters s arg with
    | .error e => .fail e
    | .ok params =>
        (x.provider.inScope (x.fetch E s.sql params)).after (x.announcement s params)

/-- Runs a statement that returns the number of rows it changed. -/
def runCommand (s : Statement) (arg : Option Argument) : Action σ Nat :=
  if s.isEmpty then .fail .notInitialized
  else
    match parameters s arg with
    | .error e => .fail e
    | .ok params =>
        (x.provider.inScope (x.command s.sql params)).after (x.announcement s params)

/-! ### Entities -/

/-- Selects entities with joins and an argument. -/
def queryWith (E : EntityType α) (projection predicate : Option Expr) (joins : List JoinClause)
    (arg : Option Argument) : Action σ (List α) :=
  match compileSelect x.dialect E.descriptor projection predicate joins with
  | .error e => .fail e
  | .ok s => x.runQuery E s arg

/-- Selects entities. -/
def query (E : EntityType α) (projection predicate : Option Expr) : Action σ (List α) :=
  x.queryWith E projection predicate [] none

/-- Selects entities by a description. -/
def queryAs (E : EntityType α) (q : Selection) (arg : Option Argument) : Action σ (List α) :=
  match q.compile x.dialect E.descriptor with
  | .error e => .fail e
  | .ok s => x.runQuery E s arg

/-- Inserts an entity. -/
def insert (E : EntityType α) (a : α) : Action σ Nat :=
  match compileInsert E.descriptor with
  | .error e => .fail e
  | .ok s => x.runCommand s (some (.ofEntity E a))

/-- Updates the row of an entity. -/
def update (E : EntityType α) (a : α) : Action σ Nat :=
  match compileUpdate E.descriptor with
  | .error e => .fail e
  | .ok s => x.runCommand s (some (.ofEntity E a))

/-- Deletes the row with a given key. -/
def delete (E : EntityType α) (key : Value) : Action σ Nat :=
  match compileDelete E.descriptor key with
  | .error e => .fail e
  | .ok s => x.runCommand s none

/-! ### Texts -/

/-- The bindings of parameters whose values are known. -/
def literalBindings (params : List Param) : List Binding :=
  params.map fun p => .literal p.name p.value

/-- Runs a select statement written by hand. -/
def queryText (E : EntityType α) (sql : String) (params : List Param) : Action σ (List α) :=
  x.runQuery E (.handwritten .select sql (literalBindings params)) none

/-- The first entity of a select statement written by hand. -/
def queryFirst (E : EntityType α) (sql : String) (params : List Param) : Action σ (Option α) :=
  fun s =>
    let o := x.queryText E sql params s
    ⟨o.result.map List.head?, o.state, o.events⟩

/-- Runs a statement written by hand that returns the number of rows it changed. -/
def executeText (sql : String) (params : List Param) : Action σ Nat :=
  x.runCommand (.handwritten (.ofSql sql) sql (literalBindings params)) none

end Executor

end EntitySql
