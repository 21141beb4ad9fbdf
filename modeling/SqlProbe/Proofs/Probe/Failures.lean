import SqlProbe.InMemory.Server
import SqlProbe.Probe.Run
import SqlProbe.Proofs.Probe.Accounts

/-!
# Failed steps are failed calls

A probe that runs statements reports every call that fails and no other failure. How one call ends
matters for the next ones only in this, that nothing is done with a connection or a statement that
there is not. So no query that fails keeps a later one from being made, and what has been opened is
closed, whatever fails in between.
-/

namespace SqlProbe.Probe

open Driver (Made)

variable {σ β : Type}

/-! ### Courses of calls -/

/-- One call, however it ends. -/
def Once {α : Type} (entry : Except Error α → Made) (calls : List Made) : Prop :=
  ∃ outcome, calls = [entry outcome]

/-- A query on a connection. -/
def Query (connection : Nat) (sql : String) : List Made → Prop := Once (.query connection sql [])

/-- The connection is not there, or it is closed in the end, whatever has been done with it. -/
inductive Session (config : Config) (inside : Nat → List Made → Prop) : List Made → Prop
  | refused (cause : Error) : Session config inside [.connect config (.error cause)]
  | opened (connection : Nat) {calls : List Made} (within : inside connection calls)
      (closing : Except Error Unit) : Session config inside
        (.connect config (.ok connection) :: calls ++ [.close connection closing])

/-- The parameter of a prepared statement is bound, and the statement runs if that is possible. -/
inductive Binding (connection : Nat) (statement : Sql.Statement) : List Made → Prop
  | refused (cause : Error) :
      Binding connection statement [.bindStatement statement 1 boundValue (.error cause)]
  | bound (filled : Sql.Statement) (outcome : Except Error QueryResult) :
      Binding connection statement
        [.bindStatement statement 1 boundValue (.ok filled),
          .queryStatement connection filled outcome]

/-- The statement is not there, or it is closed in the end. -/
inductive Preparing (connection : Nat) : List Made → Prop
  | refused (cause : Error) : Preparing connection [.prepare connection preparedSql (.error cause)]
  | prepared (statement : Sql.Statement) {calls : List Made}
      (within : Binding connection statement calls) (closing : Except Error Unit) :
      Preparing connection (.prepare connection preparedSql (.ok statement) :: calls ++
        [.closeStatement connection statement closing])

/-- The calls of each probe that runs statements. -/
inductive Course (context : Context) : Probe → List Made → Prop
  | basic {calls : List Made} (session : Session context.base (fun connection =>
      Each (fun read => Query connection read.1) basicQueries) calls) : Course context .basic calls
  | batch {calls : List Made} (session : Session context.base (fun connection =>
      Each (Query connection) (batchStatements ++ ["SHOW DATABASES"])) calls) :
      Course context .batch calls
  | query {sql : String} {calls : List Made} (session : Session context.base (fun connection =>
      Query connection sql) calls) : Course context (.query sql) calls
  | prepared {calls : List Made} (session : Session context.base Preparing calls) :
      Course context .prepared calls
  | users {calls : List Made} (sessions : Each (fun account =>
      Session (context.base.withCredentials account.user account.password) Quiet) context.users
      calls) : Course context .users calls

/-! ### Work with one connection -/

section

variable (driver : Driver σ) (connection : Nat)

theorem accounts_readValue (sql column label : String) :
    Accounts [] (fun _ => Query connection sql)
      (readValue driver.recorded connection sql column label)
      (readValue driver connection sql column label) := by
  refine .await fun outcome => .only ?_ fun _ => ⟨outcome, rfl⟩
  cases outcome with
  | error cause => exact .reportFailure label cause
  | ok result =>
    dsimp only
    split
    · exact .report rfl
    · exact .pure () rfl

theorem accounts_basicWork :
    Accounts [] (fun _ => Each (fun read => Query connection read.1) basicQueries)
      (basicWork driver.recorded connection) (basicWork driver connection) := by
  refine (Accounts.report rfl).quietly fun _ => Accounts.look.quietly fun server => ?_
  refine (Accounts.report rfl).quietly fun _ => .forM _ fun ⟨sql, column, label⟩ => ?_
  exact accounts_readValue driver connection sql column label

theorem accounts_readRow (sql : String) :
    Accounts [] (fun _ => Query connection sql) (readRow driver.recorded connection sql)
      (readRow driver connection sql) :=
  .await fun outcome => (Accounts.reportOutcome sql fun _ => rfl).only fun _ => ⟨outcome, rfl⟩

theorem accounts_listDatabases :
    Accounts [] (fun _ => Query connection "SHOW DATABASES")
      (listDatabases driver.recorded connection) (listDatabases driver connection) := by
  refine .await fun outcome => .only ?_ fun _ => ⟨outcome, rfl⟩
  cases outcome with
  | error cause => exact .reportFailure _ cause
  | ok result =>
    refine (Accounts.report rfl).quietly fun _ => ?_
    exact (Accounts.forM _ fun name => Accounts.report rfl).mono fun _ _ => Each.quiet

theorem accounts_batchWork :
    Accounts [] (fun _ => Each (Query connection) (batchStatements ++ ["SHOW DATABASES"]))
      (batchWork driver.recorded connection) (batchWork driver connection) :=
  (Accounts.forM _ (accounts_readRow driver connection)).bind
    (fun _ => accounts_listDatabases driver connection) fun rows names =>
      rows.append (.singleton names)

theorem accounts_queryWork (sql : String) :
    Accounts [] (fun _ => Query connection sql) (queryWork driver.recorded sql connection)
      (queryWork driver sql connection) := by
  refine .await fun outcome => .only ?_ fun _ => ⟨outcome, rfl⟩
  cases outcome with
  | error cause => exact (Accounts.reportFailure sql cause).quietly fun _ => .pure none rfl
  | ok result =>
    dsimp only
    split
    · exact (Accounts.report rfl).quietly fun _ => .pure none rfl
    · exact (Accounts.report rfl).quietly fun _ => .pure _ rfl

theorem accounts_runBound (statement : Sql.Statement) :
    Accounts [] (fun _ => Binding connection statement)
      (runBound driver.recorded connection statement) (runBound driver connection statement) := by
  refine .await fun bound => ?_
  cases bound with
  | error cause => exact (Accounts.reportFailure _ cause).only fun _ => .refused cause
  | ok filled =>
    refine .await fun outcome => ?_
    exact (Accounts.reportOutcome _ fun _ => rfl).only fun _ => .bound filled outcome

/-- A call whose failure only is reported. -/
theorem accounts_discharge (call : Call σ Unit) (entry : Except Error Unit → Made) (label : String)
    (told : ∀ outcome, (entry outcome).failure? = failureOf outcome) :
    Accounts [] (fun _ => Once entry)
      (do
        match ← await (call.recorded entry) with
        | .ok () => pure ()
        | .error cause => report (.fail label cause))
      (do
        match ← await call with
        | .ok () => pure ()
        | .error cause => report (.fail label cause)) := by
  refine .await fun outcome => .only ?_ fun _ => ⟨outcome, rfl⟩
  rw [told]
  cases outcome with
  | ok => exact .pure () rfl
  | error cause => exact .reportFailure label cause

theorem accounts_preparedWork :
    Accounts [] (fun _ => Preparing connection) (preparedWork driver.recorded connection)
      (preparedWork driver connection) := by
  refine .await fun outcome => ?_
  cases outcome with
  | error cause => exact (Accounts.reportFailure _ cause).only fun _ => .refused cause
  | ok statement =>
    refine (Accounts.report rfl).quietly fun _ => ?_
    have closes := accounts_discharge (driver.closeStatement connection statement)
      (.closeStatement connection statement) "Close statement" fun _ => rfl
    refine (accounts_runBound driver connection statement).bind (fun _ => closes) ?_
    rintro _ _ calls _ within ⟨closing, rfl⟩
    exact .prepared statement within closing

theorem accounts_close :
    Accounts [] (fun _ => Once (.close connection)) (close driver.recorded connection)
      (close driver connection) :=
  .await fun outcome => (Accounts.reportOutcome _ fun _ => rfl).only fun _ => ⟨outcome, rfl⟩

end

/-! ### Work with a new connection -/

section

variable {driver : Driver σ} {config : Config} {inside : Nat → List Made → Prop}

/-- What follows on a connect depends on whether there is a connection. -/
theorem accounts_connect {course : β → List Made → Prop} {next : Option Nat → WorkM σ β}
    {notedNext : Option Nat → WorkM (σ × List Made) β}
    (refused : ∀ cause, Accounts [] (fun result calls =>
      course result (.connect config (.error cause) :: calls)) (notedNext none) (next none))
    (opened : ∀ connection, Accounts [] (fun result calls =>
      course result (.connect config (.ok connection) :: calls)) (notedNext (some connection))
      (next (some connection))) :
    Accounts [] course (connect driver.recorded config >>= notedNext)
      (connect driver config >>= next) := by
  simp only [connect, bind_assoc]
  refine .await fun outcome => ?_
  cases outcome with
  | error cause => exact (Accounts.reportFailure _ cause).quietly fun _ => refused cause
  | ok connection => exact (Accounts.report rfl).quietly fun _ => opened connection

theorem accounts_withConnection {noted : Nat → WorkM (σ × List Made) Unit}
    {work : Nat → WorkM σ Unit} (each : ∀ connection,
      Accounts [] (fun _ => inside connection) (noted connection) (work connection)) :
    Accounts [] (fun _ => Session config inside) (withConnection driver.recorded config noted)
      (withConnection driver config work) := by
  refine accounts_connect (fun cause => .pure () (.refused cause)) fun connection => ?_
  refine (each connection).bind (fun _ => accounts_close driver connection) ?_
  rintro _ _ calls _ within ⟨closing, rfl⟩
  exact .opened connection within closing

theorem accounts_queryProbe (context : Context) (sql : String) :
    Accounts [] (fun _ => Session context.base fun connection => Query connection sql)
      (queryProbe driver.recorded context sql) (queryProbe driver context sql) := by
  refine accounts_connect (fun cause => .pure none (.refused cause)) fun connection => ?_
  refine (accounts_queryWork driver connection sql).bind
    (fun table => (accounts_close driver connection).returning table) ?_
  rintro _ _ calls _ within ⟨closing, rfl⟩
  exact .opened connection within closing

theorem accounts_tryAccount (base : Config) (account : Account) :
    Accounts [] (fun _ => Session (base.withCredentials account.user account.password) Quiet)
      (tryAccount driver.recorded base account) (tryAccount driver base account) := by
  refine .await fun outcome => ?_
  cases outcome with
  | error cause => exact (Accounts.reportFailure _ cause).only fun _ => .refused cause
  | ok connection =>
    refine (Accounts.report rfl).quietly fun _ => ?_
    refine (accounts_discharge (driver.close connection) (.close connection) _ fun _ => rfl).mono ?_
    rintro _ _ ⟨closing, rfl⟩
    exact @Session.opened _ Quiet connection [] rfl closing

end

/-! ### Reports -/

/-- The probe runs statements on one connection at a time. -/
def runsStatements : Probe → Bool
  | basic | users | prepared | batch | query _ => true
  | properties | ping | pool => false

theorem accounts_work (driver : Driver σ) (context : Context) {probe : Probe}
    (statements : probe.runsStatements = true) :
    Accounts [] (fun _ => Course context probe) (work driver.recorded context probe)
      (work driver context probe) := by
  cases probe with
  | basic =>
    exact ((accounts_withConnection (accounts_basicWork driver)).mono
      fun _ _ => .basic).returning none
  | users =>
    exact ((Accounts.forM _ fun account => accounts_tryAccount context.base account).mono
      fun _ _ => .users).returning none
  | prepared =>
    exact ((accounts_withConnection (accounts_preparedWork driver)).mono
      fun _ _ => .prepared).returning none
  | batch =>
    exact ((accounts_withConnection (accounts_batchWork driver)).mono
      fun _ _ => .batch).returning none
  | query sql => exact (accounts_queryProbe context sql).mono fun _ _ => .query
  | properties | ping | pool => cases statements

/-- What the report of a probe has to do with the calls that were made for it. -/
structure Told (context : Context) (probe : Probe) (report : Report) (calls : List Made) :
    Prop where
  /-- Failed steps and failed calls correspond, one by one and in order. -/
  failures : List.Forall₂ Tells report.failures (calls.filterMap Made.failure?)
  course : Course context probe calls

/-- The reports of probes that were run one after the other, and the calls for all of them. -/
inductive AllTold (context : Context) : List Probe → List Report → List Made → Prop
  | nil : AllTold context [] [] []
  | cons {probe : Probe} {probes : List Probe} {report : Report} {reports : List Report}
      {calls others : List Made} (first : Told context probe report calls)
      (rest : AllTold context probes reports others) :
      AllTold context (probe :: probes) (report :: reports) (calls ++ others)

section

variable (driver : Driver σ) (context : Context)

theorem run_told {probe : Probe} (statements : probe.runsStatements = true) (state : σ)
    (record : List Made) : ∃ calls,
      run driver.recorded context probe (state, record) = ((run driver context probe state).1,
          (run driver context probe state).2, record ++ calls) ∧
        Told context probe (run driver context probe state).1 calls := by
  obtain ⟨table, after, calls, told, plain, watched, course, failures⟩ :=
    accounts_work driver context statements state record []
  refine ⟨calls, ?_, ?_⟩
  · simp only [run, plain, watched]
  · simp only [run, plain]
    exact ⟨failures, course⟩

theorem runAll_told {probes : List Probe}
    (statements : ∀ probe ∈ probes, probe.runsStatements = true) (state : σ) (record : List Made) :
    ∃ calls, runAll driver.recorded context probes (state, record) =
        ((runAll driver context probes state).1, (runAll driver context probes state).2,
          record ++ calls) ∧
      AllTold context probes (runAll driver context probes state).1 calls := by
  induction probes generalizing state record with
  | nil => exact ⟨[], by simp [runAll], .nil⟩
  | cons probe probes ih =>
    obtain ⟨calls, watched, told⟩ :=
      run_told driver context (statements probe List.mem_cons_self) state record
    obtain ⟨others, alike, rest⟩ := ih (fun other member =>
      statements other (List.mem_cons_of_mem _ member)) (run driver context probe state).2
      (record ++ calls)
    refine ⟨calls ++ others, ?_, .cons told rest⟩
    simp only [runAll, watched, alike, List.append_assoc]

/-- The calls that are made for probes. -/
def callsMade (probes : List Probe) (state : σ) : List Made :=
  (runAll driver.recorded context probes (state, [])).2.2

end

theorem Told.hasFailures_iff {context : Context} {probe : Probe} {report : Report}
    {calls : List Made} (told : Told context probe report calls) :
    report.hasFailures = calls.any fun call => call.failure?.isSome := by
  have none : report.failures = [] ↔ calls.filterMap Made.failure? = [] := by
    rw [← List.length_eq_zero_iff, told.failures.length_eq, List.length_eq_zero_iff]
  rw [Report.failures, List.filter_eq_nil_iff, List.filterMap_eq_nil_iff] at none
  rw [Bool.eq_iff_iff, ← not_iff_not]
  simpa [Report.hasFailures] using none

theorem AllTold.exitCode {context : Context} {probes : List Probe} {reports : List Report}
    {calls : List Made} (told : AllTold context probes reports calls) :
    Report.exitCode true reports =
      if calls.any fun call => call.failure?.isSome then 1 else 0 := by
  have failed : reports.any Report.hasFailures = calls.any fun call => call.failure?.isSome := by
    induction told with
    | nil => rfl
    | cons first _ ih => rw [List.any_cons, List.any_append, first.hasFailures_iff, ih]
  rw [Report.exitCode, Bool.true_and, failed]

/-- However the driver behaves, probes that run statements report each call that failed and no other
failure. Their calls take their course, whatever fails, and a strict run ends with one exactly if
some call failed. Without the record the run is the same. -/
theorem runAll_tells_failures (driver : Driver σ) (context : Context) (probes : List Probe)
    (state : σ) (statements : ∀ probe ∈ probes, probe.runsStatements = true) :
    let (reports, after) := runAll driver context probes state
    let calls := callsMade driver context probes state
    runAll driver.recorded context probes (state, []) = (reports, after, calls) ∧
      AllTold context probes reports calls ∧
      Report.exitCode true reports =
        if calls.any fun call => call.failure?.isSome then 1 else 0 := by
  obtain ⟨calls, watched, told⟩ := runAll_told driver context statements state []
  have made : callsMade driver context probes state = calls := by rw [callsMade, watched]; rfl
  dsimp only
  rw [made]
  exact ⟨watched, told, told.exitCode⟩

/-- A query fails, a parameter cannot be bound, and neither connection can be closed. -/
theorem runAll_tells_failures_in_memory :
    let server : InMemory.Server := {
      script := { statementSlots := some 0, closeFailure := some "reset by peer" } }
    let context : Context := {
      base := .mysql "localhost" 4000 "test" "root", users := [], extra := .empty,
      pool := {}, health := {} }
    let driver := InMemory.driver server.script
    let probes := [.query "SELECT 2", .prepared]
    let (reports, after) := runAll driver context probes server
    let calls := callsMade driver context probes server
    (∀ probe ∈ probes, probe.runsStatements = true) ∧
      (calls.filterMap Made.failure?).map Error.kind = [.query, .connection, .query, .connection] ∧
      runAll driver.recorded context probes (server, []) = (reports, after, calls) ∧
      AllTold context probes reports calls ∧
      Report.exitCode true reports =
        if calls.any fun call => call.failure?.isSome then 1 else 0 := by
  intro server context driver probes
  have statements : ∀ probe ∈ probes, probe.runsStatements = true := by decide
  exact ⟨statements, by decide, runAll_tells_failures driver context probes server statements⟩

end SqlProbe.Probe
