import SqlProbe.Driver.Basic
import SqlProbe.Pool.Step

/-!
# Pools in time

A pool together with its driver and a clock. The clock stands still while anything can go on, and
jumps to the end of the next wait when everything waits. One task goes on at a time, until it has to
wait again: the script that is being run, a borrower in the background, or the closing of a
connection that came back. Tasks go on in the order in which what they waited for has come. The pool
itself changes by its steps only.
-/

namespace SqlProbe.Pool

/-- Who can go on. -/
inductive Task where
  /-- The script that is being run. -/
  | script
  /-- A borrower in the background, before its call. -/
  | arrival (call : Nat)
  /-- A borrower in the background. -/
  | borrower (call : Nat)
  /-- The closing of a connection that came back. -/
  | closing (connection : Nat)
  deriving DecidableEq

/-- What ends a wait. -/
inductive Wait where
  /-- The end of a driver call that a borrower made. -/
  | get (call : Nat)
  /-- The end of a borrower's patience. -/
  | deadline (call : Nat)
  | warmUp (call : Nat)
  | closer (call : Nat)
  | closing (connection : Nat)
  /-- The end of what a worker does with its connection. -/
  | job (index : Nat)
  /-- The end of what the script itself does. -/
  | script
  deriving DecidableEq

/-- A wait and the time at which it ends, if it ever does. -/
structure Timer where
  wait : Wait
  due : Option Nat

/-- A pool with its driver and what waits. -/
structure Run (σ : Type) where
  driver : Driver σ
  /-- Where connections are opened to. -/
  target : SqlProbe.Config
  server : σ
  pool : State
  /-- The waits that have begun, in the order in which they did. -/
  timers : List Timer := []
  /-- The waits that have ended and have not been noticed. -/
  ended : List Wait := []
  /-- Who can go on, the next in front. -/
  ready : List Task := []
  /-- The calls of borrowers in the background. -/
  background : List Nat := []
  /-- Those of them that nobody asks about any more: what they borrow comes back at once. -/
  forsaken : List Nat := []
  /-- The number of the next call. -/
  nextCall : Nat := 0

namespace Run

variable {σ α β : Type}

/-- The task that a wait belongs to. -/
def taskOf (r : Run σ) : Wait → Task
  | .get call => if r.background.contains call then .borrower call else .script
  | .deadline call => if r.background.contains call then .borrower call else .script
  | .closing connection => .closing connection
  | _ => .script

/-- Lets a task go on after those that can already. -/
def wake (r : Run σ) (task : Task) : Run σ :=
  if r.ready.contains task then r else { r with ready := r.ready ++ [task] }

/-- A borrower has got what it waited for in the queue. -/
def hasTurn (s : State) (get : Get) : Bool :=
  match get with
  | .queued => s.shut
  | .granted => true
  | _ => false

/-- The waits that a change of the pool ends: connections that came back are to be closed, borrowers
have their turn, and closings have ended that others wait for. -/
def woken (before after : State) : List Wait :=
  (after.closings.filter fun c => !before.closings.contains c).map Wait.closing ++
    ((after.gets.filter fun entry =>
      hasTurn after entry.2 && !((before.get? entry.1).any (hasTurn before))).map fun entry =>
        Wait.get entry.1) ++
    (if after.closings.length < before.closings.length then
      after.closers.map fun entry => Wait.closer entry.1
    else [])

/-- Changes the pool by one step, and lets go on whoever this concerns. -/
def step (r : Run σ) (event : Event) : Run σ :=
  let after := r.pool.step event
  (woken r.pool after).foldl (fun r wait => r.wake (r.taskOf wait)) { r with pool := after }

/-- Forgets waits that nobody waits for any more. -/
def forget (r : Run σ) (waits : List Wait) : Run σ :=
  { r with
    timers := r.timers.filter fun timer => !waits.contains timer.wait
    ended := r.ended.filter fun wait => !waits.contains wait }

/-- Begins a wait. -/
def begin (r : Run σ) (wait : Wait) (span : Option Nat) : Run σ :=
  { r with timers := r.timers ++ [⟨wait, span.map (r.pool.now + ·)⟩] }

/-- The wait has begun. -/
def waitsFor (r : Run σ) (wait : Wait) : Bool := r.timers.any fun timer => timer.wait = wait

/-- Makes a driver call or looks whether it has ended; the outcome, if there is one. -/
def await (r : Run σ) (wait : Wait) (call : Call σ α) : Option (Except Error α) × Run σ :=
  let finish (r : Run σ) : Option (Except Error α) × Run σ :=
    let (outcome, server) := call.finish r.server
    (some outcome, { r with server })
  if r.ended.contains wait then finish (r.forget [wait])
  else if r.waitsFor wait then (none, r)
  else
    match call.atOnce r.server with
    | some (outcome, server) => (some outcome, { r with server })
    | none =>
      let r := { r with server := call.start r.server }
      match call.span r.server with
      | some 0 => finish r
      | span => (none, r.begin wait span)

/-- Whether a connection is closed after an attempt to close it. -/
def closedNow (r : Run σ) (connection : Nat) : Bool := r.driver.isClosed connection r.server

/-! ### Borrowers -/

/-- Goes on with a borrower until it has to wait; each idle connection can hold it up once. Drivers
have no check of their own for idle connections. -/
def pursue : Nat → Nat → Run σ → Run σ
  | 0, _, r => r
  | fuel + 1, call, r =>
    match r.pool.get? call with
    | none => r
    | some .queued => if r.pool.shut then r.step (.resume call) else r
    | some .granted => pursue fuel call (r.step (.resume call))
    | some (.validating _ _) => r
    | some (.discarding connection) =>
      match r.await (.get call) (r.driver.close connection) with
      | (none, r) => r
      | (some _, r) => pursue fuel call (r.step (.discarded call (r.closedNow connection)))
    | some .opening =>
      match r.await (.get call) (r.driver.connect r.target) with
      | (none, r) => r
      | (some (.ok connection), r) => r.step (.opened call connection)
      | (some (.error cause), r) => r.step (.refused call cause)

/-- Goes on with a borrower, whose patience may be at its end. What it waits for comes first, even
at the very end of its patience. -/
def borrow (r : Run σ) (call : Nat) : Run σ :=
  let r := pursue (r.pool.idle.length + 3) call r
  if (r.pool.get? call).isNone then r.forget [.get call, .deadline call]
  else if r.ended.contains (.deadline call) || r.pool.config.acquireTimeout = 0 then
    (r.step (.expire call)).forget [.get call, .deadline call]
  else if r.waitsFor (.deadline call) then r
  else r.begin (.deadline call) (some r.pool.config.acquireTimeout)

/-- A borrower comes and goes on until it has to wait. -/
def arrive (r : Run σ) (call : Nat) : Run σ := (r.step (.get call)).borrow call

/-- Takes a number for a call. -/
def newCall (r : Run σ) : Nat × Run σ := (r.nextCall, { r with nextCall := r.nextCall + 1 })

/-- Lets a borrower come in the background; its call. -/
def spawnGet (r : Run σ) : Nat × Run σ :=
  let (call, r) := r.newCall
  (call, { r with background := call :: r.background }.wake (.arrival call))

/-- Gives back what a forsaken borrower has got. -/
def renounce (r : Run σ) (call : Nat) : Run σ :=
  match r.pool.result? call with
  | some outcome =>
    if r.forsaken.contains call then
      let r := { r with forsaken := r.forsaken.erase call }
      match outcome with
      | .ok connection => r.step (.giveBack connection false)
      | .error _ => r
    else r
  | none => r

/-- Asks no more about a borrower in the background. -/
def forsake (r : Run σ) (call : Nat) : Run σ :=
  { r with forsaken := call :: r.forsaken }.renounce call

/-- Gives a borrower up. -/
def abandon (r : Run σ) (call : Nat) : Run σ :=
  (r.step (.cancel call)).forget [.get call, .deadline call]

/-! ### Tasks -/

/-- Goes on with the closing of a connection that came back. -/
def pursueClosing (r : Run σ) (connection : Nat) : Run σ :=
  match r.await (.closing connection) (r.driver.close connection) with
  | (none, r) => r
  | (some _, r) => r.step (.retired connection (r.closedNow connection))

/-- Goes on with a task in the background. -/
def perform (r : Run σ) : Task → Run σ
  | .script => r
  | .arrival call => (r.arrive call).renounce call
  | .borrower call => (r.borrow call).renounce call
  | .closing connection => r.pursueClosing connection

/-- The time at which the next wait ends. -/
def nextDue (r : Run σ) : Option Nat := (r.timers.filterMap Timer.due).min?

/-- Moves the clock to a time and ends the waits that are due. The script goes on first if it is one
of those that waited, the other tasks in the order in which the waits began. -/
def moveTo (r : Run σ) (time : Nat) : Run σ :=
  let due := (r.timers.filter fun timer => timer.due = some time).map Timer.wait
  let r := { r with
    timers := r.timers.filter fun timer => timer.due ≠ some time
    ended := r.ended ++ due }
  let r := due.foldl (fun r wait => r.wake (r.taskOf wait)) (r.step (.tick (time - r.pool.now)))
  { r with ready := r.ready.filter (· = .script) ++ r.ready.filter (· ≠ .script) }

/-- A bound on how often anything can go on before everything has ended, for a script that makes so
many calls of its own. -/
def effort (r : Run σ) (calls : Nat) : Nat :=
  16 * (calls + r.pool.config.warmTarget + r.pool.idle.length + r.pool.gets.length +
    r.pool.loans.length + r.pool.retiring.length + r.pool.closings.length + r.timers.length +
    r.ready.length + 1)

/-- Goes on with all that can, without letting time pass. -/
def settleFor : Nat → Run σ → Run σ
  | 0, r => r
  | fuel + 1, r =>
    match r.ready with
    | [] => r
    | task :: ready => settleFor fuel ({ r with ready }.perform task)

/-- Goes on with all that can, without letting time pass. -/
def settle (r : Run σ) : Run σ := settleFor (r.effort 0) r

/-- Goes on with everything until the script has ended. `poll` goes on with the script until it
ends, with a value, or has to wait. -/
def driveFor (poll : α → Run σ → (α ⊕ β) × Run σ) : Nat → α → Run σ → Option β × Run σ
  | 0, _, r => (none, r)
  | fuel + 1, script, r =>
    match r.ready with
    | .script :: ready =>
      match poll script { r with ready } with
      | (.inl script, r) => driveFor poll fuel script r
      | (.inr value, r) => (some value, r)
    | task :: ready => driveFor poll fuel script ({ r with ready }.perform task)
    | [] =>
      match r.nextDue with
      | some time => driveFor poll fuel script (r.moveTo time)
      | none => (none, r)

/-- Runs a script to its end; none if it waits for what never comes. -/
def drive (calls : Nat) (poll : α → Run σ → (α ⊕ β) × Run σ) (script : α) (r : Run σ) :
    Option β × Run σ :=
  driveFor poll (r.effort calls) script { r with ready := .script :: r.ready }

/-! ### Scripts -/

/-- Makes a driver call. -/
def call (r : Run σ) (call : Call σ α) : Option (Except Error α) × Run σ :=
  r.drive 1 (fun () r =>
    match r.await .script call with
    | (some outcome, r) => (.inr outcome, r)
    | (none, r) => (.inl (), r)) ()

/-- Lets time pass. -/
def sleep (r : Run σ) (span : Nat) : Run σ :=
  (r.call { span := fun _ => some span, finish := fun server => (.ok (), server) }).2

/-- Borrows a connection. -/
def get (r : Run σ) : Option (Except Error Nat) × Run σ :=
  let (call, r) := r.newCall
  r.drive 1 (fun started r =>
    let r := if started then r.borrow call else r.arrive call
    match r.pool.result? call with
    | some outcome => (.inr outcome, r)
    | none => (.inl true, r)) false

/-- Goes on with the opening of connections in advance; the error of the one that fails. -/
def pursueWarmUp : Nat → Nat → Run σ → Option Error × Run σ
  | 0, _, r => (none, r)
  | fuel + 1, call, r =>
    if r.pool.warmUps.contains call then
      match r.await (.warmUp call) (r.driver.connect r.target) with
      | (none, r) => (none, r)
      | (some (.ok connection), r) => pursueWarmUp fuel call (r.step (.warmed call connection))
      | (some (.error cause), r) => (some cause, r.step (.warmFailed call))
    else (none, r)

/-- Opens connections in advance. -/
def warmUp (r : Run σ) : Option (Except Error Unit) × Run σ :=
  let (call, r) := r.newCall
  (r.step (.warmUp call)).drive 1 (fun () r =>
    match pursueWarmUp (r.pool.config.warmTarget + 1) call r with
    | (some cause, r) => (.inr (.error cause), r)
    | (none, r) => (if r.pool.warmUps.contains call then .inl () else .inr (.ok ()), r)) ()

/-- Goes on with closing connections. -/
def pursueCloser : Nat → Nat → Run σ → Run σ
  | 0, _, r => r
  | fuel + 1, call, r =>
    let close (connection : Nat) : Run σ :=
      match r.await (.closer call) (r.driver.close connection) with
      | (none, r) => r
      | (some _, r) => pursueCloser fuel call (r.step (.drained call (r.closedNow connection)))
    match r.pool.closer? call with
    | none => r
    | some (.draining connection _ _) => close connection
    | some (.finishing (.pending connection) _) => close connection
    | some (.finishing (.closing connection) _) =>
      if r.pool.closings.contains connection then r
      else pursueCloser fuel call (r.step (.joined call))

/-- Runs a closing call to its end. -/
def runCloser (r : Run σ) (event : Nat → Event) : Run σ :=
  let (call, r) := r.newCall
  let items := r.pool.idle.length + r.pool.retiring.length + r.pool.loans.length
  ((r.step (event call)).drive (items + 1) (fun () r =>
    let r := pursueCloser (r.effort items) call r
    (if (r.pool.closer? call).isSome then .inl () else .inr (), r)) ()).2

/-- Closes the idle connections. -/
def closeIdle (r : Run σ) : Run σ := r.runCloser .closeIdle

/-- Closes the pool. -/
def close (r : Run σ) : Run σ := r.runCloser .close

/-! ### Workers -/

/-- How far a worker has come. -/
inductive Job (α : Type) where
  | fresh
  | getting (call : Nat)
  | working (connection : Nat)
  | done (outcome : Except Error (Nat × α))

/-- The outcome of a worker that has one. -/
def Job.outcome? : Job α → Option (Except Error (Nat × α))
  | done outcome => some outcome
  | _ => none

/-- A worker can go on although nothing has happened since. -/
def Job.canGoOn (s : State) : Job α → Bool
  | getting call => (s.get? call).any (hasTurn s)
  | _ => false

/-- Goes on with what a worker does with its connection, which then comes back. -/
def pursueWork (index : Nat) (work : Nat → Call σ α) (connection : Nat) (r : Run σ) :
    Job α × Run σ :=
  match r.await (.job index) (work connection) with
  | (none, r) => (.working connection, r)
  | (some outcome, r) =>
    (.done (outcome.map fun value => (connection, value)), r.step (.giveBack connection false))

/-- Goes on with a worker that waits for a connection. -/
def pursueGetting (index : Nat) (work : Nat → Call σ α) (call : Nat) (r : Run σ) :
    Job α × Run σ :=
  match r.pool.result? call with
  | none => (.getting call, r)
  | some (.error cause) => (.done (.error cause), r)
  | some (.ok connection) => pursueWork index work connection r

/-- Goes on with a worker until it has to wait. -/
def pursueJob (index : Nat) (work : Nat → Call σ α) (job : Job α) (r : Run σ) : Job α × Run σ :=
  match job with
  | .fresh =>
    let (call, r) := r.newCall
    pursueGetting index work call (r.arrive call)
  | .getting call => pursueGetting index work call (r.borrow call)
  | .working connection => pursueWork index work connection r
  | .done outcome => (.done outcome, r)

/-- Goes on with the workers one after the other, the first of which has the given index. -/
def pursueJobs (work : Nat → Call σ α) : Nat → List (Job α) → Run σ → List (Job α) × Run σ
  | _, [], r => ([], r)
  | index, job :: jobs, r =>
    let (job, r) := pursueJob index work job r
    let (jobs, r) := pursueJobs work (index + 1) jobs r
    (job :: jobs, r)

/-- Goes on with the workers until all of them have to wait. -/
def pursueAll (work : Nat → Call σ α) : Nat → List (Job α) → Run σ → List (Job α) × Run σ
  | 0, jobs, r => (jobs, r)
  | fuel + 1, jobs, r =>
    let (jobs, r) := pursueJobs work 1 jobs r
    if jobs.any (Job.canGoOn r.pool) then pursueAll work fuel jobs r else (jobs, r)

/-- Runs workers side by side, each of which borrows a connection, does its work and gives it back;
the outcomes in the order of the workers. -/
def workers (r : Run σ) (count : Nat) (work : Nat → Call σ α) :
    Option (List (Except Error (Nat × α))) × Run σ :=
  r.drive (4 * count) (fun jobs r =>
    let (jobs, r) := pursueAll work (count + 1) jobs r
    match jobs.mapM Job.outcome? with
    | some outcomes => (.inr outcomes, r)
    | none => (.inl jobs, r)) (List.replicate count .fresh)

end Run

end SqlProbe.Pool
