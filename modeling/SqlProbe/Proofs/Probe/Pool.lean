import SqlProbe.Proofs.Pool.Telling
import SqlProbe.Proofs.Probe.Closing
import SqlProbe.Proofs.Probe.Failures

/-!
# What the pool probe tells of failed calls

The report of the pool probe has a step for each worker. A connect or a query that fails makes the
step of its worker fail with the same error, whatever the other workers do, and no step fails without
a reason. Of connections that cannot be closed the pool tells nobody, and the step for its closing
always goes well.
-/

namespace SqlProbe

theorem Error.Kind.ofName?_name (kind : Error.Kind) : Error.Kind.ofName? kind.name = some kind := by
  cases kind <;> rfl

theorem Error.Kind.name_injective : Function.Injective Error.Kind.name := fun a b same =>
  Option.some.inj (ofName?_name a ▸ ofName?_name b ▸ congrArg Error.Kind.ofName? same)

namespace Probe

open Driver (Failed Made)
open Pool (Adds Faithful Gentle Reliable Upholds)
open Pool.Run (Alone Enters Idles Job Narrates)

variable {σ : Type}

/-- A failed step tells of one error only. -/
theorem Tells.unique {step : Step} {cause other : Error} (tells : Tells step cause)
    (also : Tells step other) : cause = other := by
  obtain ⟨kind, detail⟩ := cause
  obtain ⟨kind', detail'⟩ := other
  have kinds : kind = kind' :=
    Error.Kind.name_injective (Status.failed.inj (tells.1.symm.trans also.1))
  subst kinds
  have messages : kind.heading ++ detail = kind.heading ++ detail' :=
    Option.some.inj (tells.2.symm.trans also.2)
  rw [(String.append_right_inj kind.heading).mp messages]

/-! ### Steps of workers -/

/-- Why a step of the pool probe has failed. -/
inductive PoolFailure (context : Context) (calls : List Made) (step : Step) : Prop
  /-- The pool cannot be configured like this. -/
  | unconfigured (cause : Error) (refused : poolConfig context = .error cause)
      (tells : Tells step cause)
  /-- A call has failed that closed no connection. -/
  | failed (cause : Error) (failed : Failed calls cause) (tells : Tells step cause)
  /-- The worker has waited for a connection for too long. -/
  | late (config : Pool.Config) (configured : poolConfig context = .ok config)
      (tells : Tells step config.timedOut)
  /-- The worker got an answer to its query, but it was not the number one. -/
  | wrong (connection : Nat) (result : QueryResult)
      (answered : .query connection workerSql [] (.ok result) ∈ calls)
      (other : (workerValue result).asInt64? ≠ some 1)
      (status : step.status = .failed Error.Kind.query.name)
      (detail : step.detail = some (workerSql ++ " = " ++ (workerValue result).text))

theorem enters_query : Enters fun connection => Made.query connection workerSql [] where
  other := fun _ _ => rfl
  failure := fun _ _ => rfl

theorem workerStep_failure {context : Context} {config : Pool.Config} {calls : List Made}
    (configured : poolConfig context = .ok config) (id : Nat)
    (outcome : Except Error (Nat × QueryResult))
    (explained : (Job.done outcome).Explained (fun connection => .query connection workerSql [])
      config.timedOut calls)
    (failed : (workerStep id outcome).status.isFailed = true) :
    PoolFailure context calls (workerStep id outcome) := by
  cases outcome with
  | error cause =>
    rcases explained with rfl | refused
    · exact .late config configured ⟨rfl, rfl⟩
    · exact .failed cause refused ⟨rfl, rfl⟩
  | ok got =>
    obtain ⟨connection, result⟩ := got
    unfold workerStep at failed ⊢
    dsimp only at failed ⊢
    split at failed
    · contradiction
    · next other =>
      rw [if_neg other]
      exact .wrong connection result explained other rfl rfl

/-- What the steps of the pool probe have to do with the calls that were made for it. -/
structure PoolTold (Refuses : Error → Prop) (context : Context) (steps : List Step)
    (calls : List Made) : Prop where
  /-- The error of a failed call is told, unless it was made to close a connection; then it is one of
  certain errors. -/
  adds : Adds Refuses
    (fun cause => ∃ step ∈ steps, step.status.isFailed = true ∧ Tells step cause) calls
  reasons : ∀ step ∈ steps, step.status.isFailed = true → PoolFailure context calls step

/-- A pool is refused for its configuration only. -/
theorem kind_of_unconfigured {context : Context} {cause : Error}
    (refused : poolConfig context = .error cause) : cause.kind = .configuration := by
  rcases Nat.eq_zero_or_pos context.pool.maxOpen with none | some
  · rw [poolConfig, none] at refused
    cases refused
    rfl
  · rw [poolConfig, Pool.Config.ofSizes, if_neg (Nat.ne_of_gt some), if_neg (Nat.not_lt_zero _)]
      at refused
    contradiction

/-- That a connection cannot be closed is told only if something else has failed in the same way. -/
theorem PoolTold.tells_iff {Refuses : Error → Prop} {context : Context} {steps : List Step}
    {calls : List Made} (told : PoolTold Refuses context steps calls) {cause : Error}
    (kind : cause.kind = .connection) :
    (∃ step ∈ steps, step.status.isFailed = true ∧ Tells step cause) ↔ Failed calls cause := by
  refine ⟨fun ⟨step, member, fails, tells⟩ => ?_, told.adds.failed cause⟩
  cases told.reasons step member fails with
  | unconfigured other refused also =>
    have same := kind_of_unconfigured refused
    rw [← tells.unique also, kind] at same
    contradiction
  | failed other failed also => exact tells.unique also ▸ failed
  | late config configured also =>
    rw [tells.unique also] at kind
    contradiction
  | wrong connection result answered other status detail =>
    have same := Status.failed.inj (tells.1.symm.trans status)
    rw [kind] at same
    exact absurd (Error.Kind.name_injective same) nofun

section Workers

variable {driver : Driver σ} {Holds : σ → Prop} {Refuses : Error → Prop}
  {Knows : σ → List Nat → List Nat → Prop} {context : Context} {config : Pool.Config} {state : σ}

/-- The steps of workers tell what they have met with; the pool is closed after them. -/
theorem told_of_narrates {outcomes : List (Except Error (Nat × QueryResult))} {s : Pool.State}
    {calls closings : List Made} (configured : poolConfig context = .ok config)
    (narrates : Narrates Refuses config.timedOut (fun connection => .query connection workerSql [])
      (outcomes.map .done) s calls)
    (adds : Adds Refuses (fun _ => False) closings) (stats : String) : PoolTold Refuses context
      (outcomes.mapIdx (fun i outcome => workerStep (i + 1) outcome) ++
        [.okWith "Pool stats" stats, .ok "Pool closed"]) (calls ++ closings) := by
  refine ⟨(narrates.adds.mono fun cause member => ?_).append adds.silent, ?_⟩
  · obtain ⟨outcome, among, same⟩ := List.mem_map.mp member
    cases same
    obtain ⟨i, bound, here⟩ := List.getElem_of_mem among
    refine ⟨workerStep (i + 1) (.error cause), List.mem_append_left _ ?_, rfl, rfl, rfl⟩
    exact List.mem_mapIdx.mpr ⟨i, bound, by rw [here]⟩
  · intro step member failed
    rcases List.mem_append.mp member with worker | other
    · obtain ⟨i, bound, rfl⟩ := List.mem_mapIdx.mp worker
      have explained := narrates.explained (.done outcomes[i])
        (List.mem_map_of_mem (List.getElem_mem bound))
      exact workerStep_failure configured _ _ (explained.append closings) failed
    · rcases List.mem_pair.mp other with rfl | rfl <;> contradiction

/-- All workers come to their end, and their steps tell of the calls that were made for them. -/
theorem poolSteps_told (reliable : Reliable driver context.base Holds Refuses)
    (upholds : ∀ connection, Upholds Holds (driver.query connection workerSql []))
    (holds : Holds state) (faithful : Faithful driver context.base Knows)
    (gentle : Gentle (fun connection => driver.query connection workerSql []) Knows)
    (knows : Knows state [] []) (configured : poolConfig context = .ok config) :
    ∃ calls, poolSteps driver.recorded context config (state, []) =
        ((poolSteps driver context config state).1, (poolSteps driver context config state).2, calls) ∧
      PoolTold Refuses context (poolSteps driver context config state).1 calls := by
  let start : Pool.Run σ :=
    { driver, target := context.base, server := state, pool := .ofConfig config }
  have alone : Alone Holds Refuses start := ⟨rfl, nofun, reliable, holds⟩
  obtain ⟨calls, outcome, t, plain, noted, last, narrates⟩ :=
    alone.workers upholds enters_query rfl rfl rfl context.pool.workers
  obtain ⟨outcomes, u, ended, -⟩ := Pool.Run.workers_end gentle context.pool.workers
    (Idles.new config faithful knows) fun _ member => nomatch member
  -- That the workers end is known of the run without the record, what they tell of that with it.
  obtain ⟨rfl, rfl⟩ := Prod.mk.inj (plain.symm.trans ended)
  obtain ⟨new, closed, -, adds⟩ := last.close calls
  have noted' : Pool.Run.workers {
        driver := driver.recorded
        target := context.base
        server := (state, [])
        pool := .ofConfig config } context.pool.workers
      (fun connection => driver.recorded.query connection workerSql []) =
    (some outcomes, t.recorded calls) := noted
  refine ⟨calls ++ new, ?_, ?_⟩
  · simp only [poolSteps, noted', ended, closed]
    rfl
  · simp only [poolSteps, ended]
    exact told_of_narrates configured narrates adds _

end Workers

/-! ### Reports -/

theorem forM_report (steps : List Step) (work : Work σ) :
    steps.forM report work = ((), { work with steps := work.steps ++ steps }) := by
  induction steps generalizing work with
  | nil => rw [List.append_nil]; rfl
  | cons step steps ih =>
    refine (ih _).trans ?_
    rw [List.append_assoc]
    rfl

theorem run_pool (driver : Driver σ) (context : Context) {config : Pool.Config}
    (configured : poolConfig context = .ok config) (state : σ) :
    run driver context .pool state =
      ({ name := pool.name, title := pool.title,
          steps := .okWith "Pool configuration" (poolConfigText config context.pool) ::
            (poolSteps driver context config state).1 },
        (poolSteps driver context config state).2) := by
  have worked : poolWork driver context { state } = ((), ⟨(poolSteps driver context config state).2,
      .okWith "Pool configuration" (poolConfigText config context.pool) ::
        (poolSteps driver context config state).1⟩) := by
    rw [poolWork, configured]
    dsimp only
    generalize poolSteps driver context config = steps
    exact forM_report (steps state).1 ⟨(steps state).2, [_]⟩
  rw [run, show work driver context .pool { state } = (none, (poolWork driver context { state }).2) from
    rfl, worked]

theorem run_pool_unconfigured (driver : Driver σ) (context : Context) {cause : Error}
    (refused : poolConfig context = .error cause) (state : σ) :
    run driver context .pool state =
      ({ name := pool.name, title := pool.title, steps := [.fail "Pool configuration" cause] },
        state) := by
  simp only [run, work, poolWork, refused]
  rfl

/-- The probe tells of every call that fails, but for the closing of connections, and of nothing else. -/
theorem run_pool_told (context : Context) (server : InMemory.Server) : ∃ calls,
    run (InMemory.driver server.script).recorded context .pool (server, []) =
        ((run (InMemory.driver server.script) context .pool server).1,
          (run (InMemory.driver server.script) context .pool server).2, calls) ∧
      PoolTold (InMemory.Refusal server.script) context
        (run (InMemory.driver server.script) context .pool server).1.steps calls := by
  cases configured : poolConfig context with
  | error cause =>
    rw [run_pool_unconfigured _ context configured, run_pool_unconfigured _ context configured]
    refine ⟨[], rfl, .nil, fun step member _ => ?_⟩
    rw [List.mem_singleton.mp member]
    exact .unconfigured cause configured ⟨rfl, rfl⟩
  | ok config =>
    have faithful : Faithful (InMemory.driver server.script) context.base (InMemory.Tracks server) :=
      InMemory.faithful server.script context.base
    have follows : InMemory.Follows server.script server := rfl
    obtain ⟨calls, noted, told⟩ := poolSteps_told (InMemory.reliable server.script context.base)
      (fun connection => InMemory.upholds_query server.script connection workerSql []) follows
      faithful (InMemory.gentle_query server.script workerSql []) (.new server) configured
    rw [run_pool _ context configured, run_pool _ context configured, noted]
    dsimp only
    refine ⟨calls, rfl, told.adds.mono ?_, ?_⟩
    · rintro cause ⟨step, member, tells⟩
      exact ⟨step, List.mem_cons_of_mem _ member, tells⟩
    · intro step member failed
      rcases List.mem_cons.mp member with rfl | later
      · contradiction
      · exact told.reasons step later failed

/-- The probe of the pool tells of every call that fails, but for the closing of connections: a failed
step has the kind and the message of its error. No other step fails but for want of patience, for an
answer that is not the number one, or because the pool cannot be configured. So an error that keeps a
connection from being closed is told exactly if some other call has failed with the same one. Without
the record the run is the same. -/
theorem pool_tells_failures (context : Context) (server : InMemory.Server) :
    let driver := InMemory.driver server.script
    let (report, after) := run driver context .pool server
    let calls := callsMade driver context [.pool] server
    runAll driver.recorded context [.pool] (server, []) = ([report], after, calls) ∧
      (∀ cause, Failed calls cause → ∃ step ∈ report.failures, Tells step cause) ∧
      (∀ step ∈ report.failures, PoolFailure context calls step) ∧
      (∀ connection cause, .close connection (.error cause) ∈ calls →
        server.script.closeFailure = some cause.detail ∧ cause.kind = .connection ∧
          ((∃ step ∈ report.failures, Tells step cause) ↔ Failed calls cause)) := by
  obtain ⟨calls, noted, told⟩ := run_pool_told context server
  have made : callsMade (InMemory.driver server.script) context [.pool] server = calls := by
    rw [callsMade, runAll, noted]
    rfl
  dsimp only
  rw [made, runAll, noted]
  generalize run (InMemory.driver server.script) context .pool server = outcome at told ⊢
  obtain ⟨report, after⟩ := outcome
  dsimp only at told ⊢
  have failures (cause : Error) : (∃ step ∈ report.failures, Tells step cause) ↔
      ∃ step ∈ report.steps, step.status.isFailed = true ∧ Tells step cause := by
    simp only [Report.failures, List.mem_filter, and_assoc]
  refine ⟨rfl, fun cause failed => (failures cause).mpr (told.adds.failed cause failed), ?_, ?_⟩
  · intro step member
    obtain ⟨among, fails⟩ := List.mem_filter.mp member
    exact told.reasons step among fails
  · intro connection cause member
    obtain ⟨detail, fails, rfl⟩ := told.adds.refusals _ member rfl cause rfl
    exact ⟨fails, rfl, (failures _).trans (told.tells_iff rfl)⟩

/-- The one connection of the one worker cannot be closed, and no step has failed. -/
theorem pool_hides_failed_closing :
    ¬∀ (context : Context) (server : InMemory.Server),
      ∀ cause ∈ (callsMade (InMemory.driver server.script) context [.pool] server).filterMap
        Made.failure?,
      ∃ step ∈ (run (InMemory.driver server.script) context .pool server).1.failures,
        Tells step cause := by
  let server : InMemory.Server := { script := { closeFailure := some "boom" } }
  let context : Context := {
    base := .mysql "localhost" 3307 "test" "root", users := [], extra := .empty,
    pool := { maxOpen := 1, maxIdle := 1, workers := 1 }, health := {} }
  have failed : ⟨.connection, "boom"⟩ ∈
      (callsMade (InMemory.driver server.script) context [.pool] server).filterMap Made.failure? := by
    decide +kernel
  have none : (run (InMemory.driver server.script) context .pool server).1.failures = [] := by
    decide +kernel
  have untold : ∀ step ∈ (run (InMemory.driver server.script) context .pool server).1.failures,
      ¬Tells step ⟨.connection, "boom"⟩ := by
    rw [none]
    exact fun step member => absurd member List.not_mem_nil
  intro all
  obtain ⟨step, member, tells⟩ := all context server _ failed
  exact untold step member tells

end Probe

end SqlProbe
