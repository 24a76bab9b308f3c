import EntitySql.Execution.Binding
import EntitySql.Postgres.Placeholder
import EntitySql.Postgres.Row

/-!
# Statements on a server

A client sends a statement in two steps: the server first prepares the text and tells the types of
its parameters and columns, then runs it with the bytes of the parameters.  On the wire a text ends
at its first zero character, so a statement with such a character is never sent.  A server is
described by what it does to a state of its own.

## Main definitions

* `DriverFailure` : what can go wrong below this library.
* `Server` : connecting, preparing, running, and beginning a transaction.
* `positional` : a statement with the values of its slots.
* `isSendable` : whether a text can be put on the wire.
* `Server.send` : a statement with named parameters, prepared and run.
-/

namespace EntitySql.Postgres

/-- A failure below this library: a report of the database, or anything else. -/
inductive DriverFailure where
  | report (r : DatabaseError)
  | other

/-- The error that a failure of the driver stands for. -/
def DriverFailure.error : DriverFailure → Error
  | report r => .ofDatabase r
  | other => .query

/-- What the server tells about a prepared statement. -/
structure Prepared where
  paramTypes : List WireType
  columns : List Column

/-- What the server answers to a statement. -/
structure Reply where
  rows : List (List (Option (List UInt8)))
  affected : Nat

/-- What a server does to its state.  A client is made by connecting, together with a task that
drives the connection; waiting for the task to end may fail. -/
structure Server (τ κ δ : Type) where
  connect : String → τ → Option (κ × δ) × τ
  wait : δ → τ → Bool × τ
  prepare : κ → String → τ → Except DriverFailure Prepared × τ
  run : κ → List (Option (List UInt8)) → τ → Except DriverFailure Reply × τ
  begin : κ → τ → Except DriverFailure Unit × τ

/-- A statement with numbered parameters, and their values in the order of the slots. -/
def positional (sql : String) (params : List Param) : String × List Value :=
  let r := numberPlaceholders sql (params.map (·.name))
  (String.ofList r.sql, r.order.filterMap fun i => (params[i]?).map (·.value))

/-- Whether a text can be put on the wire, where a zero character ends it. -/
def isSendable (text : String) : Bool :=
  !text.toList.contains '\x00'

/-- The bytes of values as parameters of types, one for each; none if their counts differ or one
does not fit. -/
def encodeAll? : List Value → List WireType → Option (List (Option (List UInt8)))
  | [], [] => some []
  | v :: vs, t :: ts =>
      match encode v t with
      | .ok bytes => (encodeAll? vs ts).map (bytes :: ·)
      | .error _ => none
  | _, _ => none

namespace Server

variable {τ κ δ : Type} (server : Server τ κ δ) (client : κ)

/-- Sends a statement with named parameters.  Returns the columns with the answer. -/
def send (sql : String) (params : List Param) (s : τ) :
    Except Error (List Column × Reply) × τ :=
  let (text, values) := positional sql params
  if !isSendable text then (.error .query, s)
  else
    match server.prepare client text s with
    | (.error failure, s) => (.error failure.error, s)
    | (.ok prepared, s) =>
        match encodeAll? values prepared.paramTypes with
        | none => (.error .query, s)
        | some bytes =>
            match server.run client bytes s with
            | (.error failure, s) => (.error failure.error, s)
            | (.ok reply, s) => (.ok (prepared.columns, reply), s)

/-- The rows that a statement returns. -/
def query (sql : String) (params : List Param) (s : τ) : Except Error (List PostgresRow) × τ :=
  let (result, s) := server.send client sql params s
  (result.map fun (columns, reply) => reply.rows.map fun row => ⟨columns.zip row⟩, s)

/-- The number of rows that a statement changed. -/
def execute (sql : String) (params : List Param) (s : τ) : Except Error Nat × τ :=
  let (result, s) := server.send client sql params s
  (result.map fun (_, reply) => reply.affected, s)

end Server

end EntitySql.Postgres
