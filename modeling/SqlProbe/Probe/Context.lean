import SqlProbe.Config
import SqlProbe.Health
import SqlProbe.Properties.Basic
import SqlProbe.Settings.Basic

/-!
# What probes need

The probes there are, and everything that they need to know before they start.
-/

namespace SqlProbe

/-- A probe. -/
inductive Probe where
  | basic
  | users
  | prepared
  | properties
  | ping
  | batch
  | pool
  /-- Runs one statement. -/
  | query (sql : String)
  deriving DecidableEq, Repr

/-- The probes of a full run, in order. -/
def Probe.all : List Probe := [basic, users, prepared, properties, ping, batch, pool]

/-- What probes need to know. -/
structure Probe.Context where
  /-- The target and the credentials of every probe but that of the users. -/
  base : Config
  users : List Account
  /-- Connection properties laid over those that the probe of properties sets. -/
  extra : Properties
  pool : PoolLimits
  health : Health.Thresholds

/-- What probes need to know, from the settings. -/
def Probe.Context.of (base : Config) (settings : Settings) : Probe.Context where
  base := base
  users := settings.users
  extra := Properties.ofList settings.properties.entries
  pool := settings.pool
  health := Health.Thresholds.of settings.health.healthy settings.health.degraded

end SqlProbe
