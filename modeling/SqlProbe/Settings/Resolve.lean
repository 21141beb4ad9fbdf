import SqlProbe.Driver.Profile
import SqlProbe.Settings.Basic

/-!
# Resolving targets

The target of a run, built from defaults and layers of settings, of which a later one takes
precedence. Within a layer the text of a target comes first and single fields after it.
-/

namespace SqlProbe.Layer

/-- The configuration before any layer. -/
def defaults (profile : Driver.Profile) : Config :=
  (Config.mysql "localhost" profile.defaultPort "test" "root").withCredentials "root" ""

/-- A configuration with what the text of a target says laid over it. -/
def merge (config parsed : Config) : Config :=
  { config with
    host := parsed.host
    port := if parsed.port = 0 then config.port else parsed.port
    database := parsed.database.orElse fun _ => config.database
    username := parsed.username.orElse fun _ => config.username
    password := if parsed.username.isSome then some (parsed.password.getD "") else config.password
    connectTimeout :=
      if parsed.connectTimeout = Config.mysqlDefault.connectTimeout then config.connectTimeout
      else parsed.connectTimeout
    tls := parsed.tls
    params := config.params.insertAll parsed.params.entries }

/-- Adds the forms of targets to an error about the text of one. -/
def withHelp (profile : Driver.Profile) (cause : Error) : Error :=
  match cause.kind with
  | .configuration =>
    { cause with detail := cause.detail ++ "; accepted forms: " ++ profile.targetHelp }
  | _ => cause

/-- Lays the text of a target over a configuration. -/
def applyUrl (profile : Driver.Profile) (config : Config) (url : String) : Except Error Config :=
  match profile.parseTarget url with
  | .ok parsed => .ok (merge config parsed)
  | .error cause => .error (withHelp profile cause)

/-- Sets a host, which must not be empty. -/
def applyHost (config : Config) (host : String) : Except Error Config :=
  if host = "" then .error ⟨.configuration, "host must not be empty"⟩ else .ok { config with host }

/-- Sets a port, which must not be zero. -/
def applyPort (config : Config) (port : UInt16) : Except Error Config :=
  if port = 0 then .error ⟨.configuration, "port must not be 0"⟩ else .ok { config with port }

/-- Sets the time that a connect may take, which must not be zero. -/
def applyTimeout (config : Config) (connectTimeout : Nat) : Except Error Config :=
  if connectTimeout = 0 then .error ⟨.configuration, "connect timeout must be greater than 0"⟩
  else .ok { config with connectTimeout }

/-- Lays a value over a configuration, if there is one. -/
def optionally {α : Type} (value : Option α) (apply : Config → α → Except Error Config)
    (config : Config) : Except Error Config :=
  match value with
  | some value => apply config value
  | none => .ok config

/-- Sets the fields that cannot be wrong. -/
def applyNames (layer : Layer) (config : Config) : Config :=
  { config with
    database := match layer.database with
      | some database => Config.databaseNamed database
      | none => config.database
    username := layer.user.orElse fun _ => config.username
    password := layer.password.orElse fun _ => config.password }

/-- Lays a layer over a configuration. -/
def apply (profile : Driver.Profile) (config : Config) (layer : Layer) : Except Error Config := do
  let config ← optionally layer.url (applyUrl profile) config
  let config ← optionally layer.host applyHost config
  let config ← optionally layer.port applyPort config
  optionally layer.connectTimeout applyTimeout (layer.applyNames config)

/-- The configuration of a list of layers, of which a later one takes precedence. -/
def resolve (profile : Driver.Profile) (layers : List Layer) : Except Error Config :=
  layers.foldlM (apply profile) (defaults profile)

end SqlProbe.Layer
