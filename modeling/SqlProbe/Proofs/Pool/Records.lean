import SqlProbe.Proofs.Driver.Recording
import SqlProbe.Proofs.Pool.Driving
import SqlProbe.Proofs.Pool.Outcomes

/-!
# Pools whose driver keeps a record

A pool goes on in the same way whether the calls of its driver are put on record or not. What each
stretch of a run adds to the record is found here together with what the pool makes of it: of a
connection that cannot be closed it tells nobody, and every other call that fails has its error told
to the worker for which it was made.
-/

namespace SqlProbe.Pool

open Driver (Failed Made)

variable {σ α β : Type} {Holds : σ → Prop} {Refuses : Error → Prop}

/-! ### What the driver can be relied on for -/

/-- The call comes to its end, and something stays true of the state of the driver. -/
structure Upholds (Holds : σ → Prop) (call : Call σ α) : Prop where
  timely : Timely call
  kept : ∀ server, Holds server → Holds (call.finish server).2

/-- Something stays true of the state of the driver, whatever the pool calls it for, and as long as it
is true, connections that cannot be closed refuse with certain errors only. -/
structure Reliable (driver : Driver σ) (target : SqlProbe.Config) (Holds : σ → Prop)
    (Refuses : Error → Prop) : Prop where
  connect : Upholds Holds (driver.connect target)
  close : ∀ connection, Upholds Holds (driver.close connection)
  refuses : ∀ connection server cause, Holds server →
    ((driver.close connection).finish server).1 = .error cause → Refuses cause

/-! ### What is put on record -/

/-- Calls that are added to a record: if one fails, that is told, except that a connection that cannot
be closed refuses with one of certain errors. -/
structure Adds (Refuses : Error → Prop) (told : Error → Prop) (new : List Made) : Prop where
  refusals : ∀ made ∈ new, made.isClose = true → ∀ cause, made.failure? = some cause → Refuses cause
  failed : ∀ cause, Failed new cause → told cause

namespace Adds

variable {told more : Error → Prop} {new rest : List Made}

theorem nil : Adds Refuses told [] :=
  ⟨fun _ member => absurd member List.not_mem_nil,
    fun cause failed => absurd failed (Driver.not_failed_nil cause)⟩

theorem mono (adds : Adds Refuses told new) (weaken : ∀ cause, told cause → more cause) :
    Adds Refuses more new :=
  ⟨adds.refusals, fun cause failed => weaken cause (adds.failed cause failed)⟩

/-- Nothing was to be told so far. -/
theorem silent (adds : Adds Refuses (fun _ => False) new) : Adds Refuses told new :=
  adds.mono fun _ => False.elim

theorem append (first : Adds Refuses told new) (second : Adds Refuses told rest) :
    Adds Refuses told (new ++ rest) where
  refusals := List.forall_mem_append.mpr ⟨first.refusals, second.refusals⟩
  failed := fun cause failed =>
    (Driver.failed_append.mp failed).elim (first.failed cause) (second.failed cause)

theorem close {connection : Nat} {outcome : Except Error Unit}
    (refuses : ∀ cause, outcome = .error cause → Refuses cause) :
    Adds Refuses (fun _ => False) [.close connection outcome] where
  refusals := by
    intro made member _ cause failure
    rw [List.mem_singleton.mp member] at failure
    cases outcome with
    | ok => contradiction
    | error cause =>
      cases failure
      exact refuses cause rfl
  failed := fun cause failed => absurd (Driver.failed_singleton.mp failed).1 nofun

/-- A call that closes nothing. -/
theorem call {made : Made} (other : made.isClose = false)
    (failure : ∀ cause, made.failure? = some cause → told cause) : Adds Refuses told [made] where
  refusals := by
    intro another member close
    rw [List.mem_singleton.mp member, other] at close
    contradiction
  failed := fun cause failed => failure cause (Driver.failed_singleton.mp failed).2

end Adds

/-- The event neither tells a borrower that no connection could be opened nor closes the pool. -/
def Harmless : Event → Prop
  | .refused _ _ => False
  | .close _ => False
  | _ => True

/-- A pool that is not shut has let nobody down but for a failed call on record, or for want of
patience. -/
structure Explains (late : Error) (calls : List Made) (s : State) : Prop where
  running : s.shut = false
  patience : s.config.timedOut = late
  results : ∀ call cause, (call, .error cause) ∈ s.results → cause = late ∨ Failed calls cause

namespace Explains

variable {late : Error} {calls : List Made} {s : State}

theorem append (explains : Explains late calls s) (new : List Made) : Explains late (calls ++ new) s :=
  ⟨explains.running, explains.patience, fun call cause member =>
    (explains.results call cause member).imp_right fun failed => Driver.failed_append.mpr (.inl failed)⟩

theorem step (explains : Explains late calls s) {event : Event} (open_ : ∀ call, event ≠ .close call)
    (failed : ∀ call cause, event = .refused call cause → Failed calls cause) :
    Explains late calls (s.step event) := by
  obtain ⟨told, informs, reasons⟩ := informs_step explains.running event open_
  refine ⟨informs.shut.trans explains.running, ?_, ?_⟩
  · rw [informs.config]
    exact explains.patience
  · intro call cause member
    rw [informs.results] at member
    rcases List.mem_append.mp member with now | before
    · rcases reasons call cause now with refused | expired
      · exact .inr (failed call cause refused)
      · exact .inl (expired.trans explains.patience)
    · exact explains.results call cause before

theorem harmless (explains : Explains late calls s) {event : Event} (harmless : Harmless event) :
    Explains late calls (s.step event) := by
  refine explains.step ?_ ?_
  · rintro call rfl
    exact harmless
  · rintro call cause rfl
    exact harmless.elim

end Explains

namespace Run

/-! ### Runs with and without a record -/

/-- The run of the same pool, whose driver keeps a record with these calls so far. -/
def recorded (r : Run σ) (calls : List Made) : Run (σ × List Made) :=
  { r with driver := r.driver.recorded, server := (r.server, calls) }

section Recorded

variable (r : Run σ) (calls : List Made)

@[simp]
theorem recorded_pool : (r.recorded calls).pool = r.pool := rfl

theorem foldl_wake_recorded (waits : List Wait) :
    waits.foldl (fun r wait => r.wake (r.taskOf wait)) (r.recorded calls) =
      (waits.foldl (fun r wait => r.wake (r.taskOf wait)) r).recorded calls := by
  induction waits generalizing r with
  | nil => rfl
  | cons wait waits ih =>
    have first : (r.recorded calls).wake ((r.recorded calls).taskOf wait) =
        (r.wake (r.taskOf wait)).recorded calls := by
      have task : (r.recorded calls).taskOf wait = r.taskOf wait := by cases wait <;> rfl
      rw [task, wake, wake]
      change (if r.ready.contains _ then _ else _) = _
      split <;> rfl
    rw [List.foldl_cons, List.foldl_cons, first, ih]

theorem step_recorded (event : Event) :
    (r.recorded calls).step event = (r.step event).recorded calls :=
  foldl_wake_recorded { r with pool := r.pool.step event } calls _

theorem moveTo_recorded (time : Nat) :
    (r.recorded calls).moveTo time = (r.moveTo time).recorded calls := by
  let aside : Run σ := { r with
    timers := r.timers.filter fun timer => timer.due ≠ some time
    ended := r.ended ++ r.dueAt time }
  have woken : (r.dueAt time).foldl (fun r wait => r.wake (r.taskOf wait))
      ((aside.recorded calls).step (.tick (time - r.pool.now))) =
        ((r.dueAt time).foldl (fun r wait => r.wake (r.taskOf wait))
          (aside.step (.tick (time - r.pool.now)))).recorded calls := by
    rw [step_recorded, foldl_wake_recorded]
  exact congrArg (fun t : Run (σ × List Made) => { t with
    ready := t.ready.filter (· = Task.script) ++ t.ready.filter (· ≠ Task.script) }) woken

/-- The outcome of a call is put on record when it is there. -/
theorem await_recorded (wait : Wait) (call : Call σ α) (entry : Except Error α → Made) :
    (r.recorded calls).await wait (call.recorded entry) = ((r.await wait call).1,
      (r.await wait call).2.recorded (calls ++ ((r.await wait call).1.map entry).toList)) := by
  have span : (call.recorded entry).span ((call.recorded entry).start (r.recorded calls).server) =
    call.span (call.start r.server) := rfl
  have atOnce : (call.recorded entry).atOnce (r.recorded calls).server =
    (call.atOnce r.server).map fun answered =>
      (answered.1, answered.2, calls ++ [entry answered.1]) := rfl
  have nothing (t : Run σ) : t.recorded calls = t.recorded (calls ++ []) := by rw [List.append_nil]
  unfold await
  dsimp only
  rw [span]
  by_cases ended : r.ended.contains wait = true
  · rw [if_pos ended, if_pos (show (r.recorded calls).ended.contains wait = true from ended)]
    rfl
  rw [if_neg ended, if_neg (show ¬(r.recorded calls).ended.contains wait = true from ended)]
  by_cases waits : r.waitsFor wait = true
  · rw [if_pos waits, if_pos (show (r.recorded calls).waitsFor wait = true from waits)]
    exact congrArg (Prod.mk none) (nothing r)
  rw [if_neg waits, if_neg (show ¬(r.recorded calls).waitsFor wait = true from waits)]
  rw [atOnce]
  cases call.atOnce r.server with
  | some answered => rfl
  | none =>
    let started : Run σ := { r with server := call.start r.server }
    cases call.span (call.start r.server) with
    | none => exact congrArg (Prod.mk none) (nothing (started.begin wait none))
    | some span =>
      cases span with
      | zero => rfl
      | succ span => exact congrArg (Prod.mk none) (nothing (started.begin wait (some (span + 1))))

end Recorded

/-! ### Runs with nobody in the background -/

/-- Only the script and the closing of connections that came back can go on, and the driver can be
relied on. -/
structure Alone (Holds : σ → Prop) (Refuses : Error → Prop) (r : Run σ) : Prop where
  background : r.background = []
  tasks : ∀ task ∈ r.ready, task = .script ∨ ∃ connection, task = .closing connection
  reliable : Reliable r.driver r.target Holds Refuses
  holds : Holds r.server

/-- With the record the run has come to the same, and at most closings have been added. -/
def Closed (Holds : σ → Prop) (Refuses : Error → Prop) (calls : List Made)
    (noted : Run (σ × List Made)) (t : Run σ) : Prop :=
  ∃ new, noted = t.recorded (calls ++ new) ∧ Alone Holds Refuses t ∧ Adds Refuses (fun _ => False) new

theorem Closed.after {calls new : List Made} {noted : Run (σ × List Made)} {t : Run σ}
    (adds : Adds Refuses (fun _ => False) new)
    (rest : Closed Holds Refuses (calls ++ new) noted t) : Closed Holds Refuses calls noted t := by
  obtain ⟨more, eq, last, added⟩ := rest
  exact ⟨new ++ more, by rw [eq, List.append_assoc], last, adds.append added⟩

/-- Closes a connection, and goes on when that is done. -/
def closeThen (r : Run σ) (wait : Wait) (connection : Nat) (goOn : Run σ → Run σ) : Run σ :=
  match r.await wait (r.driver.close connection) with
  | (none, r) => r
  | (some _, r) => goOn r

theorem task_cases (wait : Wait) :
    wait.task = .script ∨ ∃ connection, wait.task = .closing connection := by
  cases wait with
  | closing connection => exact .inr ⟨connection, rfl⟩
  | _ => exact .inl rfl

namespace Alone

variable {r : Run σ} (alone : Alone Holds Refuses r)

include alone

theorem step (event : Event) : Alone Holds Refuses (r.step event) := by
  obtain ⟨more, wakes, eq⟩ := exists_step alone.background event
  rw [eq]
  refine ⟨alone.background, fun task member => ?_, alone.reliable, alone.holds⟩
  rcases List.mem_append.mp member with before | now
  · exact alone.tasks task before
  · obtain ⟨wait, -, rfl⟩ := wakes.among task now
    exact task_cases wait

theorem pool_step (event : Event) : (r.step event).pool = r.pool.step event :=
  Run.pool_step alone.background event

theorem aside (server : σ) (holds : Holds server) (timers : List Timer) (ended : List Wait)
    (nextCall : Nat) : Alone Holds Refuses { r with server, timers, ended, nextCall } :=
  ⟨alone.background, alone.tasks, alone.reliable, holds⟩

theorem pop {task : Task} {ready : List Task} (first : r.ready = task :: ready) :
    Alone Holds Refuses { r with ready } :=
  ⟨alone.background, fun other member => alone.tasks other (first ▸ List.mem_cons_of_mem _ member),
    alone.reliable, alone.holds⟩

theorem push : Alone Holds Refuses { r with ready := .script :: r.ready } :=
  ⟨alone.background, List.forall_mem_cons.mpr ⟨.inl rfl, alone.tasks⟩, alone.reliable, alone.holds⟩

theorem moves (still : r.ready = []) (time : Nat) : Alone Holds Refuses (r.moveTo time) ∧
    ∃ span, (r.moveTo time).pool = r.pool.step (.tick span) := by
  obtain ⟨ready, wakes, eq⟩ := exists_moveTo alone.background still time
  rw [eq]
  refine ⟨⟨alone.background, fun task member => ?_, alone.reliable, alone.holds⟩, _, rfl⟩
  obtain ⟨wait, -, rfl⟩ := wakes.among task member
  exact task_cases wait

/-- A driver call is started or looked after, with and without the record. -/
theorem looks (calls : List Made) (wait : Wait) {call : Call σ α} (upholds : Upholds Holds call)
    (entry : Except Error α → Made) : ∃ outcome t, r.await wait call = (outcome, t) ∧
      (r.recorded calls).await wait (call.recorded entry) =
        (outcome, t.recorded (calls ++ (outcome.map entry).toList)) ∧
      Alone Holds Refuses t ∧ t.pool = r.pool ∧
      ∀ result, outcome = some result → ∃ server, Holds server ∧ result = (call.finish server).1 := by
  have recorded := await_recorded r calls wait call entry
  have awaited := awaits r wait upholds.timely
  generalize r.await wait call = outcome at recorded awaited
  cases awaited with
  | waiting since => exact ⟨_, _, rfl, recorded, alone, rfl, nofun⟩
  | begins due new =>
    exact ⟨_, _, rfl, recorded, alone.aside r.server alone.holds _ r.ended r.nextCall, rfl, nofun⟩
  | ends =>
    refine ⟨_, _, rfl, recorded,
      alone.aside _ (upholds.kept _ alone.holds) _ _ r.nextCall, rfl, ?_⟩
    rintro result ⟨⟩
    exact ⟨r.server, alone.holds, rfl⟩

theorem still (calls : List Made) : Closed Holds Refuses calls (r.recorded calls) r :=
  ⟨[], by rw [List.append_nil], alone, .nil⟩

/-- A connection is being closed. -/
theorem closes (calls : List Made) (wait : Wait) (connection : Nat) :
    ∃ new outcome t, r.await wait (r.driver.close connection) = (outcome, t) ∧
      (r.recorded calls).await wait ((r.recorded calls).driver.close connection) =
        (outcome, t.recorded (calls ++ new)) ∧
      Alone Holds Refuses t ∧ t.pool = r.pool ∧ Adds Refuses (fun _ => False) new := by
  obtain ⟨outcome, t, plain, noted, next, pool, ends⟩ := alone.looks calls wait
    (alone.reliable.close connection) (.close connection)
  refine ⟨_, outcome, t, plain, noted, next, pool, ?_⟩
  cases outcome with
  | none => exact .nil
  | some result =>
    obtain ⟨server, holds, rfl⟩ := ends result rfl
    exact .close fun cause failed => alone.reliable.refuses connection server cause holds failed

theorem pursuesClosing (calls : List Made) (connection : Nat) :
    ∃ new, (r.recorded calls).pursueClosing connection =
        (r.pursueClosing connection).recorded (calls ++ new) ∧
      Alone Holds Refuses (r.pursueClosing connection) ∧
      ((r.pursueClosing connection).pool = r.pool ∨
        ∃ closed, (r.pursueClosing connection).pool = r.pool.step (.retired connection closed)) ∧
      Adds Refuses (fun _ => False) new := by
  obtain ⟨new, outcome, t, plain, noted, next, pool, adds⟩ :=
    alone.closes calls (.closing connection) connection
  refine ⟨new, ?_⟩
  rw [pursueClosing, pursueClosing, plain, noted]
  cases outcome with
  | none => exact ⟨rfl, next, .inl pool, adds⟩
  | some result =>
    refine ⟨step_recorded t _ _, next.step _, .inr ⟨t.closedNow connection, ?_⟩, adds⟩
    rw [next.pool_step, pool]

/-- What follows on the closing of a connection closes others. -/
theorem closesThen (calls : List Made) (wait : Wait) (connection : Nat)
    {noted : Run (σ × List Made) → Run (σ × List Made)} {goOn : Run σ → Run σ}
    (next : ∀ t more, Alone Holds Refuses t → Closed Holds Refuses more (noted (t.recorded more)) (goOn t)) :
    Closed Holds Refuses calls ((r.recorded calls).closeThen wait connection noted)
      (r.closeThen wait connection goOn) := by
  obtain ⟨new, outcome, t, plain, recorded, last, -, adds⟩ := alone.closes calls wait connection
  rw [closeThen, closeThen, plain, recorded]
  cases outcome with
  | none => exact ⟨new, rfl, last, adds⟩
  | some result => exact .after adds (next t (calls ++ new) last)

theorem pursuesCloser (calls : List Made) (fuel call : Nat) :
    Closed Holds Refuses calls (pursueCloser fuel call (r.recorded calls))
      (pursueCloser fuel call r) := by
  induction fuel generalizing r calls with
  | zero => exact alone.still calls
  | succ fuel ih =>
    have next (connection : Nat) (t : Run σ) (more : List Made) (alone : Alone Holds Refuses t) :
        Closed Holds Refuses more
          (pursueCloser fuel call
            ((t.recorded more).step (.drained call ((t.recorded more).closedNow connection))))
          (pursueCloser fuel call (t.step (.drained call (t.closedNow connection)))) := by
      rw [step_recorded]
      exact ih (alone.step _) more
    unfold pursueCloser
    dsimp only
    rw [recorded_pool]
    cases r.pool.closer? call with
    | none => exact alone.still calls
    | some closer =>
      cases closer with
      | draining connection rest wholePool => exact alone.closesThen calls _ connection (next connection)
      | finishing head rest =>
        cases head with
        | pending connection => exact alone.closesThen calls _ connection (next connection)
        | closing connection =>
          dsimp only
          by_cases busy : r.pool.closings.contains connection = true
          · rw [if_pos busy, if_pos busy]
            exact alone.still calls
          · rw [if_neg busy, if_neg busy, step_recorded]
            exact ih (alone.step (.joined call)) calls

end Alone

/-! ### Scripts with and without a record -/

/-- A script goes on in the same way with the record and without. What holds of the script, the pool
and the record is kept by every visit, by the closing of connections that came back, and by time. -/
structure Recording (Holds : σ → Prop) (Refuses : Error → Prop) (poll : α → Run σ → (α ⊕ β) × Run σ)
    (noted : α → Run (σ × List Made) → (α ⊕ β) × Run (σ × List Made))
    (Goes : α → State → List Made → Prop) (Ends : β → State → List Made → Prop) : Prop where
  polled : ∀ script r calls, Alone Holds Refuses r → Goes script r.pool calls →
    ∃ new outcome t, poll script r = (outcome, t) ∧
      noted script (r.recorded calls) = (outcome, t.recorded (calls ++ new)) ∧
      Alone Holds Refuses t ∧
      outcome.elim (Goes · t.pool (calls ++ new)) (Ends · t.pool (calls ++ new))
  closed : ∀ script s calls new, Goes script s calls → Adds Refuses (fun _ => False) new →
    Goes script s (calls ++ new)
  retired : ∀ script s calls connection closed, Goes script s calls →
    Goes script (s.step (.retired connection closed)) calls
  ticked : ∀ script s calls span, Goes script s calls → Goes script (s.step (.tick span)) calls

namespace Recording

variable {poll : α → Run σ → (α ⊕ β) × Run σ}
  {noted : α → Run (σ × List Made) → (α ⊕ β) × Run (σ × List Made)}
  {Goes : α → State → List Made → Prop} {Ends : β → State → List Made → Prop}
  (recording : Recording Holds Refuses poll noted Goes Ends)

include recording

theorem drivesFor (fuel : Nat) {script : α} {r : Run σ} {calls : List Made}
    (alone : Alone Holds Refuses r) (goes : Goes script r.pool calls) : ∃ new outcome t,
      driveFor poll fuel script r = (outcome, t) ∧
      driveFor noted fuel script (r.recorded calls) = (outcome, t.recorded (calls ++ new)) ∧
      Alone Holds Refuses t ∧
      outcome.elim (∃ script, Goes script t.pool (calls ++ new)) (Ends · t.pool (calls ++ new)) := by
  -- The clock moves, the script is visited, or a connection that came back is closed: each of these
  -- comes to the same with the record, which makes the rest of the run the same by induction.
  induction fuel generalizing script r calls with
  | zero => exact ⟨[], none, r, rfl, by rw [List.append_nil]; rfl, alone, script, by rwa [List.append_nil]⟩
  | succ fuel ih =>
    rw [driveFor, driveFor, show (r.recorded calls).ready = r.ready from rfl]
    cases first : r.ready with
    | nil =>
      dsimp only
      rw [show (r.recorded calls).nextDue = r.nextDue from rfl]
      cases r.nextDue with
      | none =>
        exact ⟨[], none, r, rfl, by rw [List.append_nil], alone, script, by rwa [List.append_nil]⟩
      | some time =>
        obtain ⟨moved, span, pool⟩ := alone.moves first time
        dsimp only
        rw [moveTo_recorded]
        exact ih moved (pool ▸ recording.ticked script r.pool calls span goes)
    | cons task ready =>
      have popped := alone.pop first
      rcases alone.tasks task (first ▸ List.mem_cons_self) with rfl | ⟨connection, rfl⟩
      · obtain ⟨new, outcome, t, plain, recorded, next, holds⟩ :=
          recording.polled script { r with ready } calls popped goes
        have recorded' : noted script { r.recorded calls with ready } = _ := recorded
        dsimp only
        rw [plain, recorded']
        cases outcome with
        | inr value => exact ⟨new, some value, t, rfl, rfl, next, holds⟩
        | inl script =>
          obtain ⟨more, outcome, u, ends, ends', last, result⟩ := ih next holds
          rw [List.append_assoc] at ends' result
          exact ⟨new ++ more, outcome, u, ends, ends', last, result⟩
      · obtain ⟨new, recorded, next, pool, adds⟩ := popped.pursuesClosing calls connection
        have recorded' : Run.perform { r.recorded calls with ready } (.closing connection) = _ :=
          recorded
        have holds : Goes script (Run.pursueClosing { r with ready } connection).pool (calls ++ new) := by
          refine recording.closed script _ calls new ?_ adds
          rcases pool with same | ⟨closed, retired⟩
          · rw [same]
            exact goes
          · rw [retired]
            exact recording.retired script r.pool calls connection closed goes
        dsimp only
        rw [recorded']
        obtain ⟨more, outcome, u, ends, ends', last, result⟩ := ih next holds
        rw [List.append_assoc] at ends' result
        exact ⟨new ++ more, outcome, u, ends, ends', last, result⟩

theorem drives (count : Nat) {script : α} {r : Run σ} {calls : List Made}
    (alone : Alone Holds Refuses r) (goes : Goes script r.pool calls) : ∃ new outcome t,
      r.drive count poll script = (outcome, t) ∧
      (r.recorded calls).drive count noted script = (outcome, t.recorded (calls ++ new)) ∧
      Alone Holds Refuses t ∧
      outcome.elim (∃ script, Goes script t.pool (calls ++ new)) (Ends · t.pool (calls ++ new)) :=
  recording.drivesFor (r.effort count) alone.push goes

end Recording

/-- Closing a pool is a matter of closings only. -/
theorem recording_closer (Holds : σ → Prop) (Refuses : Error → Prop) (call items : Nat)
    (before : List Made) : Recording Holds Refuses
      (fun () r =>
        let r := pursueCloser (r.effort items) call r
        (if (r.pool.closer? call).isSome then .inl () else .inr (), r))
      (fun () r =>
        let r := pursueCloser (r.effort items) call r
        (if (r.pool.closer? call).isSome then .inl () else .inr (), r))
      (fun () _ calls => ∃ new, calls = before ++ new ∧ Adds Refuses (fun _ => False) new)
      (fun () _ calls => ∃ new, calls = before ++ new ∧ Adds Refuses (fun _ => False) new) where
  polled := by
    rintro ⟨⟩ r calls alone ⟨earlier, rfl, adds⟩
    obtain ⟨new, recorded, next, added⟩ := alone.pursuesCloser (before ++ earlier) (r.effort items) call
    have recorded' : pursueCloser ((r.recorded (before ++ earlier)).effort items) call
      (r.recorded (before ++ earlier)) = _ := recorded
    dsimp only
    rw [recorded']
    refine ⟨new, _, _, rfl, rfl, next, ?_⟩
    have all : ∃ later, before ++ earlier ++ new = before ++ later ∧
      Adds Refuses (fun _ => False) later := ⟨_, List.append_assoc _ _ _, adds.append added⟩
    split <;> exact all
  closed := by
    rintro ⟨⟩ s calls new ⟨earlier, rfl, adds⟩ added
    exact ⟨_, List.append_assoc _ _ _, adds.append added⟩
  retired := fun _ _ _ _ _ goes => goes
  ticked := fun _ _ _ _ goes => goes

theorem Alone.close {r : Run σ} (alone : Alone Holds Refuses r) (calls : List Made) :
    Closed Holds Refuses calls (r.recorded calls).close r.close := by
  let items := r.pool.idle.length + r.pool.retiring.length + r.pool.loans.length
  have counted := alone.aside r.server alone.holds r.timers r.ended (r.nextCall + 1)
  obtain ⟨new, outcome, t, plain, noted, last, result⟩ :=
    (recording_closer Holds Refuses r.nextCall items calls).drives (items + 1)
      (counted.step (.close r.nextCall)) ⟨[], (List.append_nil calls).symm, .nil⟩
  rw [← step_recorded] at noted
  have closed : r.close = t := congrArg Prod.snd plain
  have closed' : (r.recorded calls).close = t.recorded (calls ++ new) := congrArg Prod.snd noted
  rw [closed, closed']
  cases outcome with
  | none =>
    obtain ⟨_, later, same, adds⟩ := result
    exact ⟨later, by rw [same], last, adds⟩
  | some value =>
    obtain ⟨later, same, adds⟩ := result
    exact ⟨later, by rw [same], last, adds⟩

end Run

end SqlProbe.Pool
