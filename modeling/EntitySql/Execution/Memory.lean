import EntitySql.Execution.Provider

/-!
# A provider in memory

A provider without a database, for programs that test how they use an executor.  Every query returns
the same rows.  It keeps a journal of its calls and can be told to fail.

## Main definitions

* `Memory` : the rows, the settings and the journal.
* `Memory.provider` : the provider.
-/

namespace EntitySql

/-- How opening or closing fails. -/
inductive Failing where
  | connection
  /-- A connection error with a cause. -/
  | caused
  | validation
  | uninitialized
deriving DecidableEq

/-- The error of a failing step, which is named in its text. -/
def Failing.error (step : String) : Failing → Error
  | connection => .connection (step ++ " refused") none
  | caused => .connection (step ++ " refused") (some (.described "socket gone"))
  | validation => .validation (step ++ " rejected")
  | uninitialized => .notInitialized

/-- A call of a provider that the journal keeps. -/
inductive Call where
  | opening
  | closing
  | running
deriving DecidableEq

/-- A statement that reached the connection. -/
structure Run where
  /-- Whether rows were asked for. -/
  rows : Bool
  sql : String
  params : List Param

/-- The rows, the settings and the journal of a provider in memory. -/
structure Memory where
  rows : List Record
  affected : Nat
  failStatements : Bool
  failOpen : Option Failing
  failClose : Option Failing
  /-- Whether the connection cannot be reached although it is open. -/
  broken : Bool
  isOpen : Bool
  calls : List Call
  runs : List Run

namespace Memory

/-- A closed provider without rows that does not fail. -/
def fresh : Memory :=
  ⟨[], 1, false, none, none, false, false, [], []⟩

/-- The error of a connection that is not open. -/
def notOpen : Error :=
  .connection "The database connection is not open" none

/-- A failure, if one is set. -/
def outcome (step : String) : Option Failing → Except Error Unit
  | none => .ok ()
  | some failing => .error (failing.error step)

/-- Opens the connection, unless it is told to fail. -/
def openUp (m : Memory) : Except Error Unit × Memory :=
  (outcome "open" m.failOpen,
    { m with calls := m.calls ++ [.opening], isOpen := m.isOpen || m.failOpen.isNone })

/-- Closes the connection; it is closed even if it is told to fail. -/
def close (m : Memory) : Except Error Unit × Memory :=
  (outcome "close" m.failClose, { m with calls := m.calls ++ [.closing], isOpen := false })

/-- Whether the connection can be reached. -/
def reach (m : Memory) : Except Error Unit :=
  if m.isOpen && !m.broken then .ok () else .error notOpen

/-- Runs a statement with a given answer, unless statements fail. -/
def run {α : Type} (rows : Bool) (answer : α) (sql : String) (params : List Param) (m : Memory) :
    Except Error α × Memory :=
  (if m.failStatements then .error (.validation "statement rejected") else .ok answer,
    { m with calls := m.calls ++ [.running], runs := m.runs ++ [⟨rows, sql, params⟩] })

/-- The provider of a dialect. -/
def provider (dialect : Dialect) : Provider Memory Record where
  isOpen := isOpen
  openUp := openUp
  close := close
  reach := reach
  asked := id
  query sql params m := run true m.rows sql params m
  execute sql params m := run false m.affected sql params m
  dialect := dialect

end Memory

end EntitySql
