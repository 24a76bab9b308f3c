import EntitySql.Postgres.Connection

/-!
# A scripted server

A server without a database, for programs that test how they use a connection.  A script says what
the next statement meets; what the server was sent is kept.

## Main definitions

* `Script` : what the next statement meets.
* `Scripted` : a script with what was sent.
* `Scripted.server` : the server.
-/

namespace EntitySql.Postgres

/-- The step at which a script fails. -/
inductive FailingStep where
  | connect
  | begin
  | parse
  | execute
deriving DecidableEq

/-- What the next statement meets. -/
structure Script where
  paramTypes : List WireType
  columns : List Column
  rows : List (List (Option (List UInt8)))
  affected : Nat
  failing : Option (FailingStep × DatabaseError)

/-- The script of a statement without parameters that changes nothing. -/
def Script.idle : Script :=
  ⟨[], [], [], 0, none⟩

/-- The report of a script that fails at a step. -/
def Script.reportAt? (s : Script) (step : FailingStep) : Option DatabaseError :=
  match s.failing with
  | some (failingStep, report) => if failingStep = step then some report else none
  | none => none

/-- What the server was sent. -/
inductive Message where
  | prepare (sql : String)
  | run (params : List (Option (List UInt8)))

/-- A script with what was sent. -/
structure Scripted where
  script : Script
  sent : List Message

namespace Scripted

/-- The answer of a step, unless the script fails there. -/
def answer {α : Type} (s : Scripted) (step : FailingStep) (a : α) : Except DriverFailure α :=
  match s.script.reportAt? step with
  | some report => .error (.report report)
  | none => .ok a

/-- A state in which one more message was sent. -/
def noting (s : Scripted) (m : Message) : Scripted :=
  { s with sent := s.sent ++ [m] }

/-- The server. -/
def server : Server Scripted Unit Unit where
  connect _ s := (if (s.script.reportAt? .connect).isSome then none else some ((), ()), s)
  wait _ s := (true, s)
  prepare _ sql s :=
    (s.answer .parse ⟨s.script.paramTypes, s.script.columns⟩, s.noting (.prepare sql))
  run _ params s := (s.answer .execute ⟨s.script.rows, s.script.affected⟩, s.noting (.run params))
  begin _ s := (s.answer .begin (), s)

end Scripted

end EntitySql.Postgres
