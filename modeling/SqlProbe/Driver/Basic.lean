import SqlProbe.Driver.Profile
import SqlProbe.Row
import SqlProbe.Session
import SqlProbe.Sql.Statement

/-!
# Drivers

A driver opens connections to a server and runs statements on them. Its state is whatever its calls
change: the server, the connections and a record of what was done. Connections are numbers. A call
may be answered at once. Otherwise it is an exchange: it does something when it is made, may then take
time, and has its outcome at the end; who waits for it may stop waiting before the end, and then the
rest of it does not happen.
-/

namespace SqlProbe

/-- An exchange with something that has state `σ`. It fails with `ε` or comes to a value. -/
structure Exchange (σ ε α : Type) where
  /-- What happens at once. -/
  start : σ → σ := id
  /-- How many milliseconds the rest takes; an exchange without a span never ends. -/
  span : σ → Option Nat := fun _ => some 0
  /-- What happens at the end. -/
  finish : σ → Except ε α × σ

namespace Exchange

variable {σ ε α : Type}

/-- An exchange that fails or succeeds at once and changes nothing. -/
def instant (outcome : σ → Except ε α) : Exchange σ ε α where
  finish s := (outcome s, s)

/-- The whole of an exchange, when the time it takes does not matter. -/
def run (exchange : Exchange σ ε α) (s : σ) : Except ε α × σ :=
  exchange.finish (exchange.start s)

/-- An exchange whose outcome is changed at its end. -/
def mapOutcome {δ β : Type} (f : Except ε α → Except δ β) (exchange : Exchange σ ε α) :
    Exchange σ δ β where
  start := exchange.start
  span := exchange.span
  finish s := ((f (exchange.finish s).1), (exchange.finish s).2)

/-- An exchange that is given up, with an error, when it would take longer than a limit. -/
def within (limit : Nat) (late : ε) (exchange : Exchange σ ε α) : Exchange σ ε α where
  start := exchange.start
  span s := some (min ((exchange.span s).getD limit) limit)
  finish s := if (exchange.span s).any (· ≤ limit) then exchange.finish s else (.error late, s)

/-- An exchange behind another, which may depend on how that ended. -/
def andThen {δ β : Type} (first : Exchange σ ε α) (next : Except ε α → Exchange σ δ β) :
    Exchange σ δ β where
  start := first.start
  span s := do
    let (outcome, after) := first.finish s
    pure ((← first.span s) + (← (next outcome).span ((next outcome).start after)))
  finish s :=
    let (outcome, after) := first.finish s
    (next outcome).run after

end Exchange

/-- A call to a driver with state `σ`: an exchange, unless the answer is there at once. -/
structure Call (σ α : Type) extends Exchange σ Error α where
  /-- The answer that is there at once; none if the exchange has to begin. -/
  atOnce : σ → Option (Except Error α × σ) := fun _ => none

namespace Call

variable {σ α β : Type}

/-- A call that is always answered at once and changes nothing. -/
def instant (outcome : σ → Except Error α) : Call σ α where
  toExchange := .instant outcome
  atOnce s := some (outcome s, s)

/-- The whole of a call, when the time it takes does not matter. -/
def run (call : Call σ α) (s : σ) : Except Error α × σ :=
  match call.atOnce s with
  | some answered => answered
  | none => call.toExchange.run s

/-- A call whose outcome is changed. -/
def mapOutcome (f : Except Error α → Except Error β) (call : Call σ α) : Call σ β where
  toExchange := call.toExchange.mapOutcome f
  atOnce s := (call.atOnce s).map fun answered => (f answered.1, answered.2)

end Call

/-- A driver with state `σ`. -/
structure Driver (σ : Type) where
  profile : Driver.Profile
  connect : Config → Call σ Nat
  serverInfo : Nat → σ → ServerInfo
  session : Nat → σ → SessionInfo
  query : Nat → String → List Value → Call σ QueryResult
  execute : Nat → String → List Value → Call σ StatementResult
  prepare : Nat → String → Call σ Sql.Statement
  /-- Binds a parameter of a statement, which by default is up to the statement alone. -/
  bindStatement : Sql.Statement → Nat → Value → Call σ Sql.Statement :=
    fun statement index value => .instant fun _ => statement.bind index value
  queryStatement : Nat → Sql.Statement → Call σ QueryResult
  executeStatement : Nat → Sql.Statement → Call σ StatementResult
  closeStatement : Nat → Sql.Statement → Call σ Unit
  ping : Nat → Call σ Unit
  close : Nat → Call σ Unit
  isClosed : Nat → σ → Bool

end SqlProbe
