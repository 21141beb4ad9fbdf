import SqlProbe.Mysql.Network

/-!
# Scripted MySQL servers

A network with one server that follows a script. It offers no encryption, numbers its connections
from one, and keeps a record of who logs in and what is asked. There may be no route to it.
-/

namespace SqlProbe.Mysql

/-- An error as a server sends it. -/
structure ServerError where
  code : Nat
  state : String
  text : String
  deriving DecidableEq, Repr

/-- The error as the client tells it. -/
def ServerError.message (error : ServerError) : String :=
  s!"Server error: `ERROR {error.state} ({error.code}): {error.text}'"

/-- What a server does. -/
structure Script where
  version : String := "5.7.0-tiny"
  /-- The users that are turned away. -/
  denied : List (String × ServerError) := []
  pingError : Option ServerError := none
  /-- The server takes connections and never greets. -/
  silent : Bool := false
  /-- The answers by SQL. -/
  answers : List (String × Except ServerError WireAnswer) := []
  /-- Why the server cannot be reached. -/
  unreachable : Option String := none

/-- A server that follows a script. -/
structure ScriptedServer where
  script : Script
  /-- The number of connections taken so far. -/
  connections : Nat := 0
  /-- What reached the server, the last first. -/
  record : List String := []

namespace ScriptedServer

/-- Notes what reached the server. -/
def note (server : ScriptedServer) (event : String) : ScriptedServer :=
  { server with record := event :: server.record }

/-- How a login is recorded. -/
def loginText (handshake : Handshake) : String :=
  let user := handshake.username.getD ""
  let password := if handshake.password.getD "" = "" then "no" else "yes"
  let database := handshake.database.getD "-"
  s!"login user={user} password={password} db={database}"

/-- The answer to SQL. -/
def answer (server : ScriptedServer) (sql : String) : Except ServerError WireAnswer :=
  (server.script.answers.lookup sql).getD
    (.error ⟨1064, "42000", "unknown statement: " ++ sql⟩)

/-- Takes a connection, or does not. -/
def greet (handshake : Handshake) (server : ScriptedServer) :
    Except String Greeting × ScriptedServer :=
  match server.script.unreachable with
  | some reason => (.error (transportFailure reason), server)
  | none =>
    let id := server.connections + 1
    let server := { server with connections := id }
    if handshake.encryption.isSome then
      (.error "Driver error: `Client asked for SSL but server does not have this capability'",
        server)
    else
      let server := server.note (loginText handshake)
      match server.script.denied.lookup (handshake.username.getD "") with
      | some error => (.error error.message, server)
      | none => (.ok ⟨server.script.version, id⟩, server)

/-- The network with such a server. -/
def network : Network ScriptedServer where
  handshake handshake :=
    { span := fun server =>
        if server.script.silent && server.script.unreachable.isNone then none else some 0
      finish := greet handshake }
  ask _ sql :=
    { finish := fun server =>
        ((server.answer sql).mapError ServerError.message, server.note ("query " ++ sql)) }
  ping _ := .instant fun server =>
    match server.script.pingError with
    | some error => .error error.message
    | none => .ok ()
  disconnect _ := .instant fun _ => .ok ()

end ScriptedServer

end SqlProbe.Mysql
