import SqlProbe.Target.Parse

/-!
# Writing targets

A configuration as the URL of its target, credentials and transport security. Every character of a
user name, a password or a database other than letters and digits is percent-encoded.
-/

namespace SqlProbe.Target

/-- A text of a URL part with everything but letters and digits encoded. -/
def encodePart (s : String) : String :=
  String.ofList (Text.Percent.encode Char.isAlphanum s.toList)

/-- The host of a configuration, or the default. -/
def hostOf (config : Config) : String := if config.host = "" then "localhost" else config.host

/-- The port of a configuration, or the default. -/
def portOf (config : Config) : UInt16 := if config.port = 0 then defaultPort else config.port

/-- User name and password as they stand before the host; an empty password is left out. -/
def credentialsText (config : Config) : String :=
  match config.username with
  | none => ""
  | some user =>
    let password := match config.password with
      | some password => if password = "" then "" else ":" ++ encodePart password
      | none => ""
    encodePart user ++ password ++ "@"

/-- Host and port; a host with a colon stands between brackets. -/
def authorityText (config : Config) : String :=
  let host := hostOf config
  (if host.toList.contains ':' then "[" ++ host ++ "]" else host) ++ ":" ++
    toString (portOf config).toNat

/-- The URL of a configuration. -/
def build (config : Config) : String :=
  "mysql://" ++ credentialsText config ++ authorityText config ++
    (match config.database with
      | some database => "/" ++ encodePart database
      | none => "") ++
    (if config.tls.mode = .disable then "" else "?" ++ config.tls.parameters)

end SqlProbe.Target
