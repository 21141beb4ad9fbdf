import SqlProbe.Probe.Ping
import SqlProbe.Probe.Pool
import SqlProbe.Probe.Properties
import SqlProbe.Probe.Statements

/-!
# Running probes

Every probe opens its own connections and closes them before its report is made. A probe that fails
does not keep the others from running.
-/

namespace SqlProbe.Probe

variable {σ : Type}

/-- The name of a probe. -/
def name : Probe → String
  | basic => "basic"
  | users => "users"
  | prepared => "prepared"
  | properties => "properties"
  | ping => "ping"
  | batch => "batch"
  | pool => "pool"
  | query _ => "query"

/-- What stands above the report of a probe. -/
def title : Probe → String
  | basic => "Basic connection"
  | users => "User authentication"
  | prepared => "Prepared statement"
  | properties => "Connection properties"
  | ping => "Ping"
  | batch => "Batch queries"
  | pool => "Connection pool"
  | query _ => "Query"

/-- Opens a connection, runs a statement and reports the rows. -/
def queryProbe (driver : Driver σ) (context : Context) (sql : String) :
    WorkM σ (Option Table) := do
  match ← connect driver context.base with
  | some connection =>
    let table ← queryWork driver sql connection
    close driver connection
    pure table
  | none => pure none

/-- What a probe does; the table of its report, if there is one. -/
def work (driver : Driver σ) (context : Context) : Probe → WorkM σ (Option Table)
  | basic => do withConnection driver context.base (basicWork driver); pure none
  | users => do context.users.forM (tryAccount driver context.base); pure none
  | prepared => do withConnection driver context.base (preparedWork driver); pure none
  | properties => do propertiesWork driver context; pure none
  | ping => do withConnection driver context.base (pingWork driver context); pure none
  | batch => do withConnection driver context.base (batchWork driver); pure none
  | pool => do poolWork driver context; pure none
  | query sql => queryProbe driver context sql

/-- Runs a probe: its report, and the driver's state afterwards. -/
def run (driver : Driver σ) (context : Context) (probe : Probe) (state : σ) : Report × σ :=
  let (table, done) := work driver context probe { state }
  ({ name := probe.name, title := probe.title, steps := done.steps, table }, done.state)

/-- Runs probes one after the other. -/
def runAll (driver : Driver σ) (context : Context) : List Probe → σ → List Report × σ
  | [], state => ([], state)
  | probe :: probes, state =>
    let (report, state) := run driver context probe state
    let (reports, state) := runAll driver context probes state
    (report :: reports, state)

end SqlProbe.Probe
