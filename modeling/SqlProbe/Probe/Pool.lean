import SqlProbe.Pool.Run
import SqlProbe.Probe.Context
import SqlProbe.Probe.Work

/-!
# The pool probe

Lets workers share a pool, each of which asks for the number one, and reports how they fared.
-/

namespace SqlProbe.Probe

variable {σ : Type}

/-- A number of 64 bits; a greater one counts as the greatest. -/
def saturate (n : Nat) : Nat := min n (Nat.pow 2 64 - 1)

/-- How the pool of the probe is configured. Waiting for a connection may take twice as long as
opening one. -/
def poolConfig (context : Context) : Except Error Pool.Config := do
  let limits := context.pool
  let config ← Pool.Config.ofSizes 0 limits.maxOpen
  pure ((((config.withMaxIdle limits.maxIdle).withMaxLifetime
    (saturate (limits.maxLifetimeSeconds * 1000))).withIdleTimeout
    (saturate (limits.maxIdleSeconds * 1000))).withAcquireTimeout
    (saturate (context.base.connectTimeout * 2)))

/-- The limits of the pool as the report shows them. -/
def poolConfigText (config : Pool.Config) (limits : PoolLimits) : String :=
  s!"max open {config.maxSize}, max idle {config.maxIdle}, " ++
    s!"max lifetime {limits.maxLifetimeSeconds}s"

/-- What each worker asks. -/
def workerSql : String := "SELECT 1"

/-- The value that a worker got; null without a row. -/
def workerValue (result : QueryResult) : Value := (result.scalar? "1").getD .null

/-- The step that tells how a worker fared. -/
def workerStep (id : Nat) (outcome : Except Error (Nat × QueryResult)) : Step :=
  let label := "Worker " ++ toString id
  match outcome with
  | .ok (_, result) =>
    let value := workerValue result
    let detail := workerSql ++ " = " ++ value.text
    if value.asInt64? = some 1 then .okWith label detail
    else .failWith label Error.Kind.query.name detail
  | .error cause => .fail label cause

/-- What a pool tells of itself, as the report shows it. -/
def statsText (stats : Pool.Stats) : String :=
  s!"open {stats.total}, in use {stats.active}, idle {stats.idle}, created {stats.created}, " ++
    s!"closed over idle cap {stats.maxIdleClosed}"

/-- Lets the workers use the pool, and closes it. The steps that tell of this, and the driver's
state afterwards. -/
def poolSteps (driver : Driver σ) (context : Context) (config : Pool.Config) (state : σ) :
    List Step × σ :=
  let start : Pool.Run σ :=
    { driver, target := context.base, server := state, pool := .ofConfig config }
  let (outcomes, run) := start.workers context.pool.workers fun connection =>
    driver.query connection workerSql []
  let outcomes := outcomes.getD []
  let after := run.close
  (outcomes.mapIdx (fun i outcome => workerStep (i + 1) outcome) ++
    [.okWith "Pool stats" (statsText run.pool.stats), .ok "Pool closed"], after.server)

/-- Lets workers share a pool and reports how they fared. -/
def poolWork (driver : Driver σ) (context : Context) : WorkM σ Unit := do
  match poolConfig context with
  | .ok config =>
    report (.okWith "Pool configuration" (poolConfigText config context.pool))
    (← within (poolSteps driver context config)).forM report
  | .error cause => report (.fail "Pool configuration" cause)

end SqlProbe.Probe
