import SqlProbe.InMemory.Server
import SqlProbe.Pool.Run

/-!
# Scenarios

Scripts in which named borrowers use a pool of connections to an in-memory server, while its
behaviour changes and time passes. After each command everything else goes on as far as it can
without time.
-/

namespace SqlProbe.InMemory

/-- A command of a scenario. -/
inductive Command where
  /-- Borrows a connection under a name. One that the name had comes back afterwards. -/
  | get (name : String)
  /-- Lets a borrower come in the background. Nobody asks any more about one that had the name. -/
  | spawnGet (name : String)
  /-- Looks how a borrower in the background fared. -/
  | poll (name : String)
  /-- Gives a borrower in the background up. -/
  | abort (name : String)
  /-- Gives a connection back, perhaps from where no task can be started. -/
  | giveBack (name : String) (outside : Bool)
  | query (name : String) (sql : String)
  /-- Closes a borrowed connection. -/
  | closeBorrowed (name : String)
  /-- The server closes a connection. -/
  | kill (connection : Nat)
  | advance (span : Nat)
  | refuse (cause : Option Error)
  | connectDelay (span : Nat)
  /-- Runs workers that borrow a connection each and hold it for a while. -/
  | workers (count span : Nat)
  | warmUp
  | closeIdle
  | close
  | config

/-- The answer to a command. -/
inductive Answer where
  /-- There is nothing to tell. -/
  | done
  /-- Nobody has this name. -/
  | nobody
  | waiting
  | wasHeld (held : Bool)
  /-- The number of a connection as it calls itself. -/
  | borrowed (outcome : Except Error Nat)
  | rows (outcome : Except Error QueryResult)
  | outcome (outcome : Except Error Unit)
  | workers (outcomes : List (Except Error Nat))
  | config (config : Pool.Config)
  /-- What the command waits for never comes. -/
  | stuck

/-- A scenario under way. -/
structure Scenario where
  run : Pool.Run Server
  /-- The borrowed connections by name. -/
  held : List (String × Nat) := []
  /-- The calls of the borrowers in the background by name. -/
  pending : List (String × Nat) := []

namespace Scenario

/-- A scenario in which nothing has happened yet. -/
def start (config : Pool.Config) (script : Script) (target : SqlProbe.Config) : Scenario where
  run := { driver := driver script, target, server := { script }, pool := .ofConfig config }

/-- Puts an entry in the place of those with its name. -/
def put (entries : List (String × Nat)) (name : String) (number : Nat) : List (String × Nat) :=
  (name, number) :: entries.filter fun entry => entry.1 ≠ name

/-- Takes the entry with a name away. -/
def without (entries : List (String × Nat)) (name : String) : List (String × Nat) :=
  entries.filter fun entry => entry.1 ≠ name

/-- A connection comes back. -/
def takeBack (s : Scenario) (connection : Nat) (outside : Bool) : Scenario :=
  { s with run := s.run.step (.giveBack connection outside) }

/-- Notes how a borrower fared. -/
def receive (s : Scenario) (name : String) (outcome : Except Error Nat) : Answer × Scenario :=
  match outcome with
  | .error cause => (.borrowed (.error cause), s)
  | .ok connection =>
    let before := s.held.lookup name
    let s := { s with held := put s.held name connection }
    (.borrowed (.ok (Server.info connection s.run.server).connectionId),
      match before with
      | some before => s.takeBack before false
      | none => s)

/-- Gives up a borrower in the background; a connection that it has comes back. -/
def giveUp (s : Scenario) (call : Nat) : Scenario :=
  match s.run.pool.result? call with
  | some (.ok connection) => s.takeBack connection false
  | some (.error _) => s
  | none => { s with run := s.run.abandon call }

/-- Changes the server. -/
def withServer (s : Scenario) (change : Server → Server) : Scenario :=
  { s with run := { s.run with server := change s.run.server } }

/-- Changes the script of the server. -/
def withScript (s : Scenario) (change : Script → Script) : Scenario :=
  s.withServer fun server => { server with script := change server.script }

/-- Runs a driver call with the connection that a name has. -/
def withHeld {α : Type} (s : Scenario) (name : String) (call : Nat → Call Server α)
    (answer : Except Error α → Answer) : Answer × Scenario :=
  match s.held.lookup name with
  | none => (.nobody, s)
  | some connection =>
    match s.run.call (call connection) with
    | (none, run) => (.stuck, { s with run })
    | (some outcome, run) =>
      let run := if run.closedNow connection then run.step (.lose connection) else run
      (answer outcome, { s with run })

/-- Runs a command, and nothing after it. -/
def perform (s : Scenario) : Command → Answer × Scenario
  | .get name =>
    match s.run.get with
    | (some outcome, run) => { s with run }.receive name outcome
    | (none, run) => (.stuck, { s with run })
  | .spawnGet name =>
    let (call, run) := s.run.spawnGet
    let run := (s.pending.lookup name).elim run run.forsake
    (.done, { s with run, pending := put s.pending name call })
  | .poll name =>
    match s.pending.lookup name with
    | none => (.nobody, s)
    | some call =>
      match s.run.pool.result? call with
      | none => (.waiting, s)
      | some outcome => { s with pending := without s.pending name }.receive name outcome
  | .abort name =>
    (.done, match s.pending.lookup name with
      | none => s
      | some call => { s with pending := without s.pending name }.giveUp call)
  | .giveBack name outside =>
    match s.held.lookup name with
    | none => (.wasHeld false, s)
    | some connection =>
      (.wasHeld true, { s with held := without s.held name }.takeBack connection outside)
  | .query name sql => s.withHeld name (fun connection => Server.answer connection sql) .rows
  | .closeBorrowed name => s.withHeld name Server.close .outcome
  | .kill connection =>
    let s := s.withServer fun server => server.shut connection
    (.done, { s with run := s.run.step (.lose connection) })
  | .advance span => (.done, { s with run := s.run.sleep span })
  | .refuse cause => (.done, s.withScript fun script => { script with refusal := cause })
  | .connectDelay span => (.done, s.withScript fun script => { script with connectDelay := span })
  | .workers count span =>
    let hold (_ : Nat) : Call Server Unit :=
      { span := fun _ => some span, finish := fun server => (.ok (), server) }
    match s.run.workers count hold with
    | (none, run) => (.stuck, { s with run })
    | (some outcomes, run) =>
      (.workers (outcomes.map (·.map fun outcome =>
        (Server.info outcome.1 run.server).connectionId)), { s with run })
  | .warmUp =>
    match s.run.warmUp with
    | (some outcome, run) => (.outcome outcome, { s with run })
    | (none, run) => (.stuck, { s with run })
  | .closeIdle => (.done, { s with run := s.run.closeIdle })
  | .close => (.done, { s with run := s.run.close })
  | .config => (.config s.run.pool.config, s)

/-- Lets everything go on that can without time. -/
def settle (s : Scenario) : Scenario := { s with run := s.run.settle }

/-- Runs a command and all that goes on after it; the answer, what reached the server meanwhile, and
what the pool tells of itself afterwards. -/
def answer (s : Scenario) (command : Command) :
    (Answer × List String × Pool.Stats) × Scenario :=
  let known := s.run.server.record.length
  let (answer, s) := s.perform command
  let s := s.settle
  let record := s.run.server.record
  ((answer, (record.take (record.length - known)).reverse, s.run.pool.stats), s)

end Scenario

end SqlProbe.InMemory
