/-!
# Health

How well a server is, judged by how long it took to answer a ping. Both thresholds belong to the
better side.
-/

namespace SqlProbe

/-- How well a server answers. -/
inductive Health where
  | healthy
  | degraded
  | unhealthy
  deriving DecidableEq, Repr

/-- The name of a state of health. -/
def Health.name : Health → String
  | healthy => "healthy"
  | degraded => "degraded"
  | unhealthy => "unhealthy"

/-- The greatest latencies, in milliseconds, that count as healthy and as degraded. -/
structure Health.Thresholds where
  healthy : Nat := 100
  degraded : Nat := 500
  healthy_le_degraded : healthy ≤ degraded := by decide
  deriving DecidableEq, Repr

/-- The thresholds with the second raised to the first where it is lower. -/
def Health.Thresholds.of (healthy degraded : Nat) : Health.Thresholds :=
  ⟨healthy, max degraded healthy, Nat.le_max_right degraded healthy⟩

/-- The state of health that a latency in nanoseconds shows. -/
def Health.ofLatency (thresholds : Health.Thresholds) (nanos : Nat) : Health :=
  if nanos ≤ thresholds.healthy * Nat.pow 10 6 then healthy
  else if nanos ≤ thresholds.degraded * Nat.pow 10 6 then degraded
  else unhealthy

end SqlProbe
