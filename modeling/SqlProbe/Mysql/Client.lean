import SqlProbe.Mysql.Network
import SqlProbe.Mysql.Profile
import SqlProbe.Mysql.Version
import SqlProbe.Properties.Apply

/-!
# The MySQL driver

A client of MySQL servers over some network. It connects by the plan that the TLS settings make.
What it sends is text only: values are put into statements as literals, so nothing is prepared on
the server. A connection that the client has closed sends nothing any more.
-/

namespace SqlProbe.Mysql

/-- A connection as the client knows it. -/
structure Link where
  server : ServerInfo
  session : SessionInfo
  /-- The client has begun to close the connection, or has closed it. -/
  closed : Bool := false
  deriving DecidableEq, Repr

/-- A client on a network with state `σ`. -/
structure Client (σ : Type) where
  network : σ
  /-- The connections opened so far, the first of which has the number one. -/
  links : List Link := []

namespace Client

variable {σ ε α : Type}

/-- A connection. -/
def link? (client : Client σ) (connection : Nat) : Option Link := client.links[connection - 1]?

/-- A connection has been closed by the client, or is being closed. -/
def isClosed (connection : Nat) (client : Client σ) : Bool :=
  (client.link? connection).any Link.closed

/-- What the server said of itself on a connection. -/
def serverInfo (connection : Nat) (client : Client σ) : ServerInfo :=
  ((client.link? connection).map Link.server).getD {}

/-- The session of a connection. -/
def session (connection : Nat) (client : Client σ) : SessionInfo :=
  ((client.link? connection).map Link.session).getD {}

/-- The number that the server gave a connection. -/
def connectionId (connection : Nat) (client : Client σ) : Nat :=
  (client.serverInfo connection).connectionId

/-- Marks a connection as closed. -/
def shut (client : Client σ) (connection : Nat) : Client σ :=
  { client with
    links := client.links.modify (connection - 1) fun link => { link with closed := true } }

/-- An exchange with the network, which depends on what the client knows. -/
def onNetwork (exchange : Client σ → Exchange σ ε α) : Exchange (Client σ) ε α where
  start client := { client with network := (exchange client).start client.network }
  span client := (exchange client).span client.network
  finish client :=
    let (outcome, network) := (exchange client).finish client.network
    (outcome, { client with network })

/-- An error of a kind with what the network says behind a heading. -/
def failure (kind : Error.Kind) (heading : String) : Except String α → Except Error α :=
  Except.mapError fun reason => ⟨kind, heading ++ reason⟩

/-! ### Connecting -/

/-- The host that a configuration names. -/
def hostOf (config : Config) : String := if config.host = "" then "localhost" else config.host

/-- The port that a configuration names. -/
def portOf (config : Config) : UInt16 := if config.port = 0 then Target.defaultPort else config.port

/-- The handshake that a configuration asks for. -/
def handshakeOf (config : Config) (encryption : Option Tls.Options) : Handshake where
  host := hostOf config
  port := portOf config
  database := config.database
  username := config.username
  password := config.password
  encryption := encryption

/-- The error of a server that does not greet in time. -/
def noHandshake (config : Config) : Error :=
  ⟨.timeout, s!"no handshake from {hostOf config}:{(portOf config).toNat} within " ++
    s!"{config.connectTimeout} ms"⟩

/-- The session that a configuration asks for. -/
def sessionOf (config : Config) : SessionInfo where
  catalog := config.database
  timeZone := config.params.get? Properties.timeZoneParam
  characterEncoding := config.params.get? Properties.encodingParam
  readOnly := config.params.get? Properties.readOnlyParam == some "true"

/-- One handshake, within the time that a connect may take. -/
def attempt (network : Network σ) (config : Config) (encryption : Option Tls.Options) :
    Exchange (Client σ) Error Greeting :=
  (onNetwork fun _ => (network.handshake (handshakeOf config encryption)).mapOutcome
    (failure .connection "")).within config.connectTimeout (noHandshake config)

/-- The handshakes of a plan, each of which is attempted in the given way. -/
def handshakes (attempt : Option Tls.Options → Exchange (Client σ) Error Greeting)
    (plan : Tls.Plan) : Exchange (Client σ) Error Greeting :=
  (attempt plan.encrypted).andThen fun outcome =>
    match outcome with
    | .error cause =>
      if plan.retriesInPlaintext cause then attempt none
      else .instant fun _ => .error cause
    | .ok greeting => .instant fun _ => .ok greeting

/-- Keeps a connection that has been opened; its number. -/
def keep (client : Client σ) (config : Config) (greeting : Greeting) : Nat × Client σ :=
  let server : ServerInfo := {
    productName := "MySQL"
    version := versionText greeting.version
    connectionId := greeting.connectionId }
  (client.links.length + 1,
    { client with links := client.links ++ [{ server, session := sessionOf config }] })

/-- Opens a connection by the plan of its TLS settings, with handshakes that are attempted in the
given way. -/
def connect (fileExists : String → Bool)
    (attempt : Config → Option Tls.Options → Exchange (Client σ) Error Greeting) (config : Config) :
    Call (Client σ) Nat :=
  match Tls.Plan.make fileExists config.tls with
  | .error cause => .instant fun _ => .error cause.toError
  | .ok plan =>
    let exchange := handshakes (attempt config) plan
    { start := exchange.start
      span := exchange.span
      finish := fun client =>
        match exchange.finish client with
        | (.error cause, client) => (.error cause, client)
        | (.ok greeting, client) =>
          let (number, client) := client.keep config greeting
          (.ok number, client) }

/-! ### Working -/

/-- The error of work on a connection that the client has closed. -/
def connectionClosed : Error := ⟨.connection, "connection is closed"⟩

/-- A call that fails at once, and sends nothing, if the connection is closed when it is made. -/
def onOpen (connection : Nat) (call : Call (Client σ) α) : Call (Client σ) α where
  toExchange := call.toExchange
  atOnce client :=
    if client.isClosed connection then some (.error connectionClosed, client)
    else call.atOnce client

/-- What the driver says about a column. -/
def columnOf (ordinal : Nat) (column : WireColumn) : Column where
  name := column.name
  dataType := column.type.name
  nullable := !column.notNull
  ordinal := ordinal
  maxLength := some column.length

/-- The rows of an answer, each value read by the type of its column. Columns are known only where
there is a row. -/
def resultOf (elapsedMillis : Nat) (answer : WireAnswer) : QueryResult where
  columns := if answer.rows = [] then [] else answer.columns.mapIdx columnOf
  rows := answer.rows.map fun row => {
    columns := answer.columns.map WireColumn.name
    values := answer.columns.mapIdx fun i column => Wire.cellValue column.type (row[i]?.getD none) }
  affectedRows := answer.affectedRows
  elapsedMillis := elapsedMillis

/-- The outcome of a statement whose rows do not matter. -/
def statementResultOf (elapsedMillis : Nat) (answer : WireAnswer) : StatementResult :=
  { affectedRows := answer.affectedRows, lastInsertId := answer.insertId, elapsedMillis }

/-- Sends a statement and reads the answer, together with the time that it took. -/
def send (network : Network σ) (connection : Nat) (read : Nat → WireAnswer → α) (sql : String) :
    Call (Client σ) α :=
  let exchange : Exchange (Client σ) Error WireAnswer :=
    onNetwork fun client => (network.ask (client.connectionId connection) sql).mapOutcome
      (failure .query "")
  { start := exchange.start
    span := exchange.span
    finish := fun client =>
      let (outcome, after) := exchange.finish client
      (outcome.map (read ((exchange.span client).getD 0)), after) }

/-- Sends a statement whose text may be faulty. -/
def sendText (network : Network σ) (connection : Nat) (read : Nat → WireAnswer → α)
    (text : Except Error String) : Call (Client σ) α :=
  onOpen connection <| match text with
    | .error cause => .instant fun _ => .error cause
    | .ok sql => send network connection read sql

/-- Pings the server on a connection. -/
def ping (network : Network σ) (connection : Nat) : Call (Client σ) Unit :=
  onOpen connection
    { toExchange := onNetwork fun client =>
        (network.ping (client.connectionId connection)).mapOutcome
          (failure .connection "ping failed: ") }

/-- Closes a connection. It counts as closed from now on, whatever comes of the farewell. Only the
call that has closed it says farewell; any other is answered at once, even while that one waits. -/
def close (network : Network σ) (connection : Nat) : Call (Client σ) Unit :=
  let farewell : Exchange (Client σ) Error Unit := onNetwork fun client =>
    (network.disconnect (client.connectionId connection)).mapOutcome
      (failure .connection "Failed to close MySQL connection: ")
  { farewell with
    start := fun client => farewell.start (client.shut connection)
    atOnce := fun client =>
      if client.isClosed connection then some (.ok (), client) else none }

end Client

/-- The MySQL driver on a network. -/
def driver {σ : Type} (fileExists : String → Bool) (network : Network σ) : Driver (Client σ) where
  profile := profile
  connect := Client.connect fileExists (Client.attempt network)
  serverInfo := Client.serverInfo
  session := Client.session
  query connection sql params :=
    Client.sendText network connection Client.resultOf (Sql.bind sql params)
  execute connection sql params :=
    Client.sendText network connection Client.statementResultOf (Sql.bind sql params)
  prepare connection sql :=
    Client.onOpen connection (.instant fun _ => .ok (Sql.Statement.prepare sql))
  queryStatement connection statement :=
    Client.sendText network connection Client.resultOf statement.render
  executeStatement connection statement :=
    Client.sendText network connection Client.statementResultOf statement.render
  closeStatement _ _ := .instant fun _ => .ok ()
  ping := Client.ping network
  close := Client.close network
  isClosed := Client.isClosed

end SqlProbe.Mysql
