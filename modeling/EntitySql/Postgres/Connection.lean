import EntitySql.Execution.Provider
import EntitySql.Postgres.Server

/-!
# Connections to Postgres

A connection is made by this library, and then it is opened and closed again, or it is supplied from
outside, and then it stays open.  A client that this library has made comes with a task that drives
it; the two are present together or not at all.

## Main definitions

* `Connection` : the client and the driving task, if there are any.
* `Connection.made`, `Connection.supplied` : the two kinds of connections.
* `Session` : a connection with the server at its other end.
* `Session.openUp`, `Session.close` : the life of a connection.
* `Server.provider` : the provider over a server.
-/

namespace EntitySql.Postgres

variable {τ κ δ : Type}

/-- A client and the task that drives it, if there are any. -/
structure Connection (κ δ : Type) where
  /-- How to reach the server. -/
  address : String
  client : Option κ
  task : Option δ
  /-- Whether the client was supplied from outside. -/
  external : Bool

namespace Connection

/-- A connection that has not been opened. -/
def made (address : String) : Connection κ δ :=
  ⟨address, none, none, false⟩

/-- A connection over a client that was supplied from outside. -/
def supplied (client : κ) : Connection κ δ :=
  ⟨"", some client, none, true⟩

/-- Whether there is a client. -/
def isOpen (c : Connection κ δ) : Bool :=
  c.client.isSome

/-- The text of a connection in diagnostics. -/
def debug (c : Connection κ δ) : String :=
  "PgConnection \x7b open: " ++ Value.boolText c.isOpen ++ ", external: "
    ++ Value.boolText c.external ++ ", .. \x7d"

end Connection

/-- The error of a connection that is not open. -/
def notOpen : Error :=
  .connection "The database connection is not open" none

/-- A connection with the state of the server at its other end. -/
structure Session (τ κ δ : Type) where
  connection : Connection κ δ
  server : τ

namespace Server

variable (server : Server τ κ δ)

/-- Connects, unless there is a client already. -/
def openUp (s : Session τ κ δ) : Except Error Unit × Session τ κ δ :=
  if s.connection.isOpen then (.ok (), s)
  else
    match server.connect s.connection.address s.server with
    | (some (client, task), t) =>
        (.ok (), ⟨{ s.connection with client := some client, task := some task }, t⟩)
    | (none, t) => (.error (.connection openingText (some .driver)), { s with server := t })

/-- Drops the client and waits for its task.  A client from outside is kept. -/
def close (s : Session τ κ δ) : Except Error Unit × Session τ κ δ :=
  if s.connection.external then (.ok (), s)
  else
    let c : Connection κ δ := { s.connection with client := none, task := none }
    match s.connection.task with
    | none => (.ok (), { s with connection := c })
    | some task =>
        match server.wait task s.server with
        | (true, t) => (.ok (), ⟨c, t⟩)
        | (false, t) => (.error (.connection closingText (some .driver)), ⟨c, t⟩)

/-- Lets a client act on the server; without a client that is an error. -/
def withClient {α : Type} (act : κ → τ → Except Error α × τ) (s : Session τ κ δ) :
    Except Error α × Session τ κ δ :=
  match s.connection.client with
  | none => (.error notOpen, s)
  | some client =>
      let (result, t) := act client s.server
      (result, { s with server := t })

/-- Begins a transaction. -/
def beginTransaction (s : Session τ κ δ) : Except Error Unit × Session τ κ δ :=
  withClient (fun client t =>
    let (result, t) := server.begin client t
    (result.mapError DriverFailure.error, t)) s

/-- The provider over a server. -/
def provider : Provider (Session τ κ δ) PostgresRow where
  isOpen s := s.connection.isOpen
  openUp := server.openUp
  close := server.close
  reach s := if s.connection.isOpen then .ok () else .error notOpen
  asked := id
  query sql params := withClient fun client => server.query client sql params
  execute sql params := withClient fun client => server.execute client sql params
  dialect := .postgres

end Server

end EntitySql.Postgres
