import SqlProbe.Json.Record
import SqlProbe.SortedMap

/-!
# Settings

What a settings file can say: the target, extra connection properties, accounts, and the limits of
the pool and of healthy latencies. Everything has a default, and names that mean nothing are
refused.
-/

namespace SqlProbe

/-- Where to connect, as far as one source of settings says. -/
structure Layer where
  /-- A target as text, which comes before the fields. -/
  url : Option String := none
  host : Option String := none
  port : Option UInt16 := none
  database : Option String := none
  user : Option String := none
  password : Option String := none
  /-- In milliseconds. -/
  connectTimeout : Option Nat := none
  deriving DecidableEq

/-- A user with a password. -/
structure Account where
  user : String
  password : String := ""
  deriving DecidableEq, Repr

/-- The limits of the pool, and how many workers use it. -/
structure PoolLimits where
  maxOpen : Nat := 10
  maxIdle : Nat := 5
  maxLifetimeSeconds : Nat := 3600
  maxIdleSeconds : Nat := 600
  workers : Nat := 5
  deriving DecidableEq, Repr

/-- The greatest latencies of healthy and of degraded servers, in milliseconds. -/
structure HealthLimits where
  healthy : Nat := 100
  degraded : Nat := 500
  deriving DecidableEq, Repr

/-- What a settings file can say. -/
structure Settings where
  target : Layer := {}
  /-- Extra connection properties. -/
  properties : SortedMap String := ∅
  accounts : List Account := []
  pool : PoolLimits := {}
  health : HealthLimits := {}
  deriving DecidableEq

/-- The accounts that are tried where the settings name none. -/
def Account.defaults : List Account := [⟨"root", ""⟩, ⟨"test", "test"⟩, ⟨"admin", "admin123"⟩]

/-- The accounts to try. -/
def Settings.users (settings : Settings) : List Account :=
  if settings.accounts = [] then Account.defaults else settings.accounts

/-! ### JSON -/

/-- The JSON form of a layer. -/
def Layer.toJson (layer : Layer) : Json :=
  .object [("url", .orNull .string layer.url), ("host", .orNull .string layer.host),
    ("port", .orNull (fun port => .natural port.toNat) layer.port),
    ("database", .orNull .string layer.database), ("user", .orNull .string layer.user),
    ("password", .orNull .string layer.password),
    ("connect_timeout_ms", .orNull .natural layer.connectTimeout)]

/-- The JSON form of an account. -/
def Account.toJson (account : Account) : Json :=
  .object [("user", .string account.user), ("password", .string account.password)]

/-- The JSON form of the limits of the pool. -/
def PoolLimits.toJson (limits : PoolLimits) : Json :=
  .object [("max_open", .natural limits.maxOpen), ("max_idle", .natural limits.maxIdle),
    ("max_lifetime_secs", .natural limits.maxLifetimeSeconds),
    ("max_idle_time_secs", .natural limits.maxIdleSeconds), ("workers", .natural limits.workers)]

/-- The JSON form of the limits of latencies. -/
def HealthLimits.toJson (limits : HealthLimits) : Json :=
  .object [("healthy_ms", .natural limits.healthy), ("degraded_ms", .natural limits.degraded)]

/-- The JSON form of settings. -/
def Settings.toJson (settings : Settings) : Json :=
  .object [("target", settings.target.toJson),
    ("properties", .object (settings.properties.entries.map fun entry =>
      (entry.1, .string entry.2))),
    ("users", .array (settings.accounts.map Account.toJson)), ("pool", settings.pool.toJson),
    ("health", settings.health.toJson)]

/-- Reads the JSON form of a layer, whose fields may all be missing. -/
def Layer.ofJson? (surplus : Bool) (json : Json) : Option Layer := do
  let parts ← json.closedParts? surplus
    ["url", "host", "port", "database", "user", "password", "connect_timeout_ms"]
  let text (i : Nat) : Option (Option String) :=
    parts.defaulted i none (Json.asOption? Json.asString?)
  pure {
    url := ← text 0
    host := ← text 1
    port := (← parts.defaulted 2 none (Json.asOption? (Json.asNatural? 65535))).map Nat.toUInt16
    database := ← text 3
    user := ← text 4
    password := ← text 5
    connectTimeout := ← parts.defaulted 6 none (Json.asOption? Json.asWord?) }

/-- Reads the JSON form of an account, whose password may be missing. -/
def Account.ofJson? (surplus : Bool) (json : Json) : Option Account := do
  let parts ← json.closedParts? surplus ["user", "password"]
  pure ⟨← parts.required 0 Json.asString?, ← parts.defaulted 1 "" Json.asString?⟩

/-- Reads the JSON form of the limits of the pool, which may all be missing. -/
def PoolLimits.ofJson? (surplus : Bool) (json : Json) : Option PoolLimits := do
  let parts ← json.closedParts? surplus
    ["max_open", "max_idle", "max_lifetime_secs", "max_idle_time_secs", "workers"]
  let default : PoolLimits := {}
  pure {
    maxOpen := ← parts.defaulted 0 default.maxOpen Json.asWord?
    maxIdle := ← parts.defaulted 1 default.maxIdle Json.asWord?
    maxLifetimeSeconds := ← parts.defaulted 2 default.maxLifetimeSeconds Json.asWord?
    maxIdleSeconds := ← parts.defaulted 3 default.maxIdleSeconds Json.asWord?
    workers := ← parts.defaulted 4 default.workers Json.asWord? }

/-- Reads the JSON form of the limits of latencies, which may both be missing. -/
def HealthLimits.ofJson? (surplus : Bool) (json : Json) : Option HealthLimits := do
  let parts ← json.closedParts? surplus ["healthy_ms", "degraded_ms"]
  let default : HealthLimits := {}
  pure ⟨← parts.defaulted 0 default.healthy Json.asWord?,
    ← parts.defaulted 1 default.degraded Json.asWord?⟩

/-- Reads a map of texts. -/
def Settings.textsOf? : Json → Option (SortedMap String)
  | .object fields =>
    SortedMap.ofList <$> fields.mapM fun (name, value) => value.asString?.map fun s => (name, s)
  | _ => none

/-- Reads the JSON form of settings, of which any part may be missing. -/
def Settings.ofJson? (surplus : Bool) (json : Json) : Option Settings := do
  let parts ← json.closedParts? surplus ["target", "properties", "users", "pool", "health"]
  pure {
    target := ← parts.defaulted 0 {} (Layer.ofJson? surplus)
    properties := ← parts.defaulted 1 ∅ textsOf?
    accounts := ← parts.defaulted 2 [] (Json.asList? (Account.ofJson? surplus))
    pool := ← parts.defaulted 3 {} (PoolLimits.ofJson? surplus)
    health := ← parts.defaulted 4 {} (HealthLimits.ofJson? surplus) }

end SqlProbe
