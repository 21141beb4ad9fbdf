import SqlProbe.Health.Ping
import SqlProbe.Probe.Context
import SqlProbe.Probe.Work

/-!
# The ping probe

Pings one connection and judges the time that it takes. A server that answers too late counts as one
that fails.
-/

namespace SqlProbe.Probe

variable {σ : Type}

/-- Reports a latency in nanoseconds. -/
def latencyStep (thresholds : Health.Thresholds) (nanos : Nat) : Step :=
  let health := Health.ofLatency thresholds nanos
  let detail := Calendar.millisFixed nanos ++ " ms (" ++ health.name ++ ")"
  match health with
  | .unhealthy => .failWith "Ping" Error.Kind.timeout.name detail
  | _ => .okWith "Ping" detail

/-- Pings a connection for no longer than opening it may take, and reports that. -/
def pingWork (driver : Driver σ) (context : Context) (connection : Nat) : WorkM σ Unit := do
  let server ← look (driver.serverInfo connection)
  report (.okWith "Connection id" (toString server.connectionId))
  match ← within (Health.ping driver connection (some context.base.connectTimeout)) with
  | .ok nanos => report (latencyStep context.health nanos)
  | .error cause => report (.failWith "Ping" cause.kind.name cause.message)

end SqlProbe.Probe
