import SqlProbe.Probe.Context
import SqlProbe.Probe.Work

/-!
# Probes that run statements

The probes that open one connection at a time and run fixed statements on it: the basic one, the
batch, the users, the prepared statement and the single statement of a user.
-/

namespace SqlProbe.Probe

variable {σ : Type}

/-- The queries of the basic probe: the text, the column to read and the label to report. -/
def basicQueries : List (String × String × String) :=
  [("SELECT 1 as result", "result", "Result"),
    ("SELECT VERSION() as version", "version", "Version"),
    ("SELECT DATABASE() as db", "db", "Database")]

/-- Runs a query and reports one of its values; an answer without rows is not reported. -/
def readValue (driver : Driver σ) (connection : Nat) (sql column label : String) :
    WorkM σ Unit := do
  match ← await (driver.query connection sql []) with
  | .ok result =>
    match result.scalar? column with
    | some value => report (.okWith label value.text)
    | none => pure ()
  | .error cause => report (.fail label cause)

/-- Reports what driver and server say of themselves, and some values. -/
def basicWork (driver : Driver σ) (connection : Nat) : WorkM σ Unit := do
  let profile := driver.profile
  report (.okWith "Driver" (profile.displayName ++ " " ++ Driver.version ++ " (" ++
    profile.capabilities.preparedStatements ++ " prepared statements)"))
  let server ← look (driver.serverInfo connection)
  report (.okWith "Server" (server.productName ++ " " ++ server.version))
  basicQueries.forM fun (sql, column, label) => readValue driver connection sql column label

/-- The statements of the batch. -/
def batchStatements : List String := ["SELECT 1", "SELECT VERSION()", "SELECT DATABASE()"]

/-- The values of the first row. -/
def firstRowText (result : QueryResult) : String :=
  match result.firstRow? with
  | some row => ", ".intercalate (row.values.map Value.text)
  | none => "(no rows)"

/-- Runs a statement and reports the first row. -/
def readRow (driver : Driver σ) (connection : Nat) (sql : String) : WorkM σ Unit := do
  reportOutcome (← await (driver.query connection sql [])) (fun result =>
    .okWith sql (firstRowText result)) sql

/-- Reports the databases of the server. -/
def listDatabases (driver : Driver σ) (connection : Nat) : WorkM σ Unit := do
  match ← await (driver.query connection "SHOW DATABASES" []) with
  | .ok result =>
    let names := (result.rows.filterMap fun row => row.get? 0).map Value.text
    report (.okWith "SHOW DATABASES" (toString names.length ++ " database(s)"))
    names.forM fun name => report (.okWith "Database" name)
  | .error cause => report (.fail "SHOW DATABASES" cause)

/-- Runs the statements of the batch and reports the databases. -/
def batchWork (driver : Driver σ) (connection : Nat) : WorkM σ Unit := do
  batchStatements.forM (readRow driver connection)
  listDatabases driver connection

/-- Tries to connect with an account. -/
def tryAccount (driver : Driver σ) (base : Config) (account : Account) : WorkM σ Unit := do
  let label := "User '" ++ account.user ++ "'"
  match ← await (driver.connect (base.withCredentials account.user account.password)) with
  | .ok connection =>
    report (.okWith label "authenticated")
    match ← await (driver.close connection) with
    | .ok () => pure ()
    | .error cause => report (.fail ("Close connection for '" ++ account.user ++ "'") cause)
  | .error cause => report (.fail label cause)

/-- The statement of the probe of prepared statements. -/
def preparedSql : String := "SELECT ? as result"

/-- The value that is bound to its parameter. -/
def boundValue : Value := .int32 42

/-- Runs the prepared statement with its parameter bound. -/
def runBound (driver : Driver σ) (connection : Nat) (statement : Sql.Statement) :
    WorkM σ Unit := do
  match ← await (driver.bindStatement statement 1 boundValue) with
  | .ok statement =>
    reportOutcome (← await (driver.queryStatement connection statement)) (fun result =>
      .okWith "Result" ((result.scalar? "result").elim "(no rows)" Value.text)) "Result"
  | .error cause => report (.fail "Bind parameter 1" cause)

/-- Prepares a statement, binds its parameter, runs it and closes it. -/
def preparedWork (driver : Driver σ) (connection : Nat) : WorkM σ Unit := do
  match ← await (driver.prepare connection preparedSql) with
  | .ok statement =>
    report (.okWith ("Prepared " ++ preparedSql)
      (toString statement.parameterCount ++ " parameter(s)"))
    runBound driver connection statement
    match ← await (driver.closeStatement connection statement) with
    | .ok () => pure ()
    | .error cause => report (.fail "Close statement" cause)
  | .error cause => report (.fail ("Prepare " ++ preparedSql) cause)

/-- The table of an answer. -/
def tableOf (result : QueryResult) : Table where
  columns := result.columns.map Column.name
  rows := result.rows.map fun row => row.values.map Value.text

/-- Runs a statement and reports how many rows it has; the rows, if there are any. -/
def queryWork (driver : Driver σ) (sql : String) (connection : Nat) :
    WorkM σ (Option Table) := do
  match ← await (driver.query connection sql []) with
  | .ok result =>
    let time := toString result.elapsedMillis ++ " ms"
    if result.rows = [] then
      report (.okWith sql ("no rows, " ++ toString result.affectedRows ++ " affected in " ++ time))
      pure none
    else
      report (.okWith sql (toString result.rows.length ++ " row(s) in " ++ time))
      pure (some (tableOf result))
  | .error cause =>
    report (.fail sql cause)
    pure none

end SqlProbe.Probe
