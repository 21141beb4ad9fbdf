import SqlProbe.Error
import SqlProbe.Json.Record

/-!
# Pool configurations

How many connections a pool may hold and for how long. All times are in milliseconds. A
configuration that is made from its sizes is checked; one that is read from JSON is taken as it is.
-/

namespace SqlProbe.Pool

/-- How many connections a pool may hold and for how long. -/
structure Config where
  /-- The connections that warming up opens. -/
  minSize : Nat := 0
  /-- The connections that may be open, idle ones and borrowed ones together. -/
  maxSize : Nat := 10
  /-- The connections that may be idle. -/
  maxIdle : Nat := 5
  /-- How long a borrower waits. -/
  acquireTimeout : Nat := 30000
  /-- How long a connection may be idle and still be lent. -/
  idleTimeout : Nat := 600000
  /-- How old a connection may be and still be kept. -/
  maxLifetime : Option Nat := some 3600000
  deriving DecidableEq, Repr

namespace Config

/-- A configuration with the given sizes, in which all connections may be idle. -/
def ofSizes (minSize maxSize : Nat) : Except Error Config :=
  if maxSize = 0 then .error ⟨.configuration, "pool max_size must be greater than 0"⟩
  else if maxSize < minSize then
    .error ⟨.configuration, s!"pool min_size ({minSize}) cannot exceed max_size ({maxSize})"⟩
  else .ok { minSize, maxSize, maxIdle := maxSize, maxLifetime := none }

/-- Limits the idle connections, at most to all. -/
def withMaxIdle (config : Config) (maxIdle : Nat) : Config :=
  { config with maxIdle := min maxIdle config.maxSize }

/-- Sets how long a borrower waits. -/
def withAcquireTimeout (config : Config) (acquireTimeout : Nat) : Config :=
  { config with acquireTimeout }

/-- Sets how long a connection may be idle. -/
def withIdleTimeout (config : Config) (idleTimeout : Nat) : Config := { config with idleTimeout }

/-- Sets how old a connection may be. -/
def withMaxLifetime (config : Config) (maxLifetime : Nat) : Config :=
  { config with maxLifetime := some maxLifetime }

/-- How many connections warming up brings the idle ones to. -/
def warmTarget (config : Config) : Nat := min config.minSize config.maxIdle

/-- The JSON form of a configuration. -/
def toJson (config : Config) : Json :=
  .object [("min_size", .natural config.minSize), ("max_size", .natural config.maxSize),
    ("max_idle", .natural config.maxIdle), ("acquire_timeout_ms", .natural config.acquireTimeout),
    ("idle_timeout_ms", .natural config.idleTimeout),
    ("max_lifetime_ms", .orNull .natural config.maxLifetime)]

/-- Reads the JSON form of a configuration. -/
def ofJson? (json : Json) : Option Config := do
  let parts ← json.parts? ["min_size", "max_size", "max_idle", "acquire_timeout_ms",
    "idle_timeout_ms", "max_lifetime_ms"]
  pure {
    minSize := ← parts.required 0 Json.asWord?
    maxSize := ← parts.required 1 Json.asWord?
    maxIdle := ← parts.required 2 Json.asWord?
    acquireTimeout := ← parts.required 3 Json.asWord?
    idleTimeout := ← parts.required 4 Json.asWord?
    maxLifetime := ← parts.optional 5 Json.asWord? }

end Config

end SqlProbe.Pool
