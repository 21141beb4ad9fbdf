import SqlProbe.Driver.Basic
import SqlProbe.InMemory.Script
import SqlProbe.Properties.Apply

/-!
# In-memory servers

A server that follows a script, and the driver for it. The server counts its connections from one
and keeps a record of what reaches it.
-/

namespace SqlProbe.InMemory

/-- A connection as the server knows it. -/
structure Connection where
  session : SessionInfo
  isClosed : Bool := false

/-- A server that follows a script. -/
structure Server where
  script : Script
  /-- The connections opened so far, the first of which has the number one. -/
  connections : List Connection := []
  /-- What reached the server, the last first. -/
  record : List String := []

namespace Server

/-- Notes what reached the server. -/
def note (server : Server) (event : String) : Server :=
  { server with record := event :: server.record }

/-- A connection is closed. -/
def isClosed (server : Server) (connection : Nat) : Bool :=
  match server.connections[connection - 1]? with
  | some found => found.isClosed
  | none => false

/-- Closes a connection. -/
def shut (server : Server) (connection : Nat) : Server :=
  { server with
    connections := server.connections.modify (connection - 1) fun found =>
      { found with isClosed := true } }

/-- The session that a configuration asks for. -/
def sessionOf (config : Config) : SessionInfo where
  catalog := config.database
  timeZone := config.params.get? Properties.timeZoneParam
  characterEncoding := config.params.get? Properties.encodingParam
  readOnly := config.params.get? Properties.readOnlyParam == some "true"

/-- The error of calls on a closed connection. -/
def connectionClosed : Error := ⟨.connection, "connection is closed"⟩

/-- Lets a user in, or turns the user away. -/
def login (config : Config) (server : Server) : Except Error Nat × Server :=
  let user := config.username.getD ""
  match server.script.refusal with
  | some cause => (.error cause, server.note ("refused " ++ user))
  | none =>
    if server.script.hasAccount user (config.password.getD "") then
      let number := server.connections.length + 1
      let server := server.note s!"connect {number} as {user} to {config.target}"
      (.ok number, { server with
        connections := server.connections ++ [{ session := sessionOf config }] })
    else
      (.error ⟨.connection, s!"Access denied for user '{user}'"⟩, server.note ("denied " ++ user))

/-- A call that fails at once on a closed connection, and takes the time of a query else. -/
def onOpen {α : Type} (connection : Nat) (finish : Server → Except Error α × Server) :
    Call Server α where
  span server := some (if server.isClosed connection then 0 else server.script.queryDelay)
  finish server :=
    if server.isClosed connection then (.error connectionClosed, server) else finish server

/-- Answers a query. -/
def answer (connection : Nat) (sql : String) : Call Server QueryResult :=
  onOpen connection fun server =>
    (server.script.answer sql, server.note s!"query {connection} {sql}")

/-- The outcome of a statement without rows. -/
def affected (result : QueryResult) : StatementResult :=
  { affectedRows := result.affectedRows, elapsedMillis := result.elapsedMillis }

/-- Prepares a statement. -/
def prepare (sql : String) : Call Server Sql.Statement :=
  Call.instant fun server =>
    match server.script.prepareFailure with
    | some cause => .error cause
    | none =>
      let statement := Sql.Statement.prepare sql
      .ok <| match server.script.statementSlots with
        | some slots => { statement with bindings := .unbound slots }
        | none => statement

/-- Runs a statement. -/
def runStatement (statement : Sql.Statement) : Call Server QueryResult where
  finish server :=
    match statement.render with
    | .error cause => (.error cause, server)
    | .ok sql => (server.script.answer sql, server.note ("statement " ++ sql))

/-- Closes a statement. -/
def closeStatement : Call Server Unit :=
  Call.instant fun server =>
    match server.script.statementCloseFailure with
    | some detail => .error ⟨.driver, detail⟩
    | none => .ok ()

/-- Answers a ping. -/
def ping (connection : Nat) : Call Server Unit where
  start server :=
    if server.script.minimal || server.isClosed connection then server
    else server.note s!"ping {connection}"
  span server :=
    if server.script.minimal then (answer connection "SELECT 1").span server
    else if server.isClosed connection then some 0
    else match server.script.ping with
      | .answers delay => some delay
      | .fails delay _ => some delay
      | .hangs => none
  finish server :=
    if server.script.minimal then
      ((answer connection "SELECT 1").mapOutcome (·.map fun _ => ())).finish server
    else if server.isClosed connection then (.error connectionClosed, server)
    else match server.script.ping with
      | .fails _ detail => (.error ⟨.connection, detail⟩, server)
      | _ => (.ok (), server)

/-- Closes a connection, even one that is closed. -/
def close (connection : Nat) : Call Server Unit where
  span server := some server.script.closeDelay
  finish server :=
    let server := server.note s!"close {connection}"
    match server.script.closeFailure with
    | some detail => (.error ⟨.connection, detail⟩, server)
    | none => (.ok (), server.shut connection)

/-- What the server says of itself on a connection. -/
def info (connection : Nat) (server : Server) : ServerInfo :=
  if server.script.minimal then {}
  else { productName := "MySQL", version := serverVersion, connectionId := connection }

/-- The session of a connection. -/
def session (connection : Nat) (server : Server) : SessionInfo :=
  if server.script.minimal then {}
  else match server.connections[connection - 1]? with
    | some found => found.session
    | none => {}

end Server

/-- What the driver for a server with a script says of itself. -/
def profile (script : Script) : Driver.Profile where
  name := "mock"
  capabilities := ⟨script.serverStatements, script.clientStatements⟩
  defaultPort := 4000
  buildTarget := Config.target

/-- The driver for a server with a script. -/
def driver (script : Script) : Driver Server where
  profile := profile script
  connect config :=
    { span := fun server => some server.script.connectDelay, finish := Server.login config }
  serverInfo := Server.info
  session := Server.session
  query connection sql _ := Server.answer connection sql
  execute connection sql _ := (Server.answer connection sql).mapOutcome (·.map Server.affected)
  prepare _ := Server.prepare
  queryStatement _ := Server.runStatement
  executeStatement _ statement := (Server.runStatement statement).mapOutcome (·.map Server.affected)
  closeStatement _ _ := Server.closeStatement
  ping := Server.ping
  close := Server.close
  isClosed connection server := server.isClosed connection

end SqlProbe.InMemory
