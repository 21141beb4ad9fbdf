import SqlProbe.Calendar.Duration
import SqlProbe.Driver.Basic
import SqlProbe.Health

/-!
# Pings

A ping measures how long a connection takes to answer, and gives up after a limit. An answer that
comes at the very limit counts.
-/

namespace SqlProbe.Health

/-- Why a ping did not come back. -/
inductive PingError where
  | connectionClosed
  | failed (message : String)
  /-- The limit in milliseconds has passed. -/
  | timedOut (limit : Nat)
  /-- No answer ever comes, and nothing limits the wait for it. -/
  | unanswered
  deriving DecidableEq, Repr

/-- The message of an error of a ping. -/
def PingError.message : PingError → String
  | connectionClosed => "Connection is closed"
  | failed message => "Ping failed: " ++ message
  | timedOut limit => "Ping timed out after " ++ Calendar.millisText limit
  | unanswered => "Ping without an answer"

/-- The kind of error that reports show for a ping. -/
def PingError.kind : PingError → Error.Kind
  | timedOut _ => .timeout
  | _ => .connection

/-- The latency in nanoseconds of a ping that has come back after so many milliseconds. -/
def latency (span : Nat) : Except Error Unit → Except PingError Nat
  | .ok () => .ok (span * Nat.pow 10 6)
  | .error cause => .error (.failed cause.message)

/-- Pings a connection, within a limit in milliseconds if there is one; the outcome is the latency
in nanoseconds. -/
def ping {σ : Type} (driver : Driver σ) (connection : Nat) (limit : Option Nat) (s : σ) :
    Except PingError Nat × σ :=
  if driver.isClosed connection s then (.error .connectionClosed, s)
  else
    let call := driver.ping connection
    match call.atOnce s with
    | some (outcome, s) => (latency 0 outcome, s)
    | none =>
      let s := call.start s
      match call.span s, limit with
      | none, none => (.error .unanswered, s)
      | none, some limit => (.error (.timedOut limit), s)
      | some span, limit =>
        if limit.any (· < span) then (.error (.timedOut (limit.getD 0)), s)
        else
          let (outcome, s) := call.finish s
          (latency span outcome, s)

end SqlProbe.Health
