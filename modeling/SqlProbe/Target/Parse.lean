import SqlProbe.Properties.Apply
import SqlProbe.Properties.Query
import SqlProbe.Url.Parse

/-!
# Targets

Where to connect, as one line of text: a host with optional port and database, or a URL with
optional credentials and properties, which may have `jdbc:` in front of it. What has a colon and two
slashes is a URL.
-/

namespace SqlProbe.Target

/-- The port where a target names none. -/
def defaultPort : UInt16 := 3307

/-- The forms of a target, for messages. -/
def help : String :=
  "host:port/database | mysql://[user[:password]@]host[:port][/database] | " ++
    "jdbc:mysql://host[:port][/database][?key=value&...]"

/-- The text that a percent-encoded part of a URL stands for. -/
def decodePart (cs : List Char) : Except Error String :=
  match Text.Percent.decode cs with
  | .ok text => .ok (String.ofList text)
  | .error fault => .error ⟨.configuration, "invalid percent-encoding: " ++ fault.message⟩

/-- The error for a target without a host. -/
def noHost (text : List Char) : Error := ⟨.configuration, s!"no host in '{String.ofList text}'"⟩

/-- The text without the given characters at its head. -/
def dropLeading (c : Char) (cs : List Char) : List Char := cs.dropWhile (· == c)

/-- The text without the given characters at its end. -/
def dropTrailing (c : Char) (cs : List Char) : List Char := (dropLeading c cs.reverse).reverse

/-- The host of a URL without brackets. -/
def urlHost? (url : Url) : Option String :=
  url.host.map fun host => String.ofList (dropTrailing ']' (dropLeading '[' host))

/-- User name and password of a URL: without a user name there is neither, and with one the password
is empty where it is not given. -/
def urlCredentials (url : Url) : Except Error (Option String × Option String) := do
  if url.username = [] then pure (none, none)
  else
    let username ← decodePart url.username
    let password ← decodePart (url.password.getD [])
    pure (some username, some password)

/-- The configuration of a URL. -/
def ofUrl (text : List Char) (url : Url) : Except Error Config := do
  if url.scheme ≠ ['m', 'y', 's', 'q', 'l'] then
    throw ⟨.configuration,
      s!"unsupported URL scheme '{String.ofList url.scheme}', expected mysql"⟩
  let some host := urlHost? url | throw (noHost text)
  let (username, password) ← urlCredentials url
  let database ← decodePart (dropLeading '/' url.path)
  let config := { Config.mysqlDefault with
    host
    port := url.port.getD defaultPort
    username
    password
    database := Config.databaseNamed database }
  match url.query with
  | none => pure config
  | some query => (← Properties.parseQuery (String.ofList query)).applyTo config

/-- The configuration of the text of a URL. -/
def parseUrl (text : List Char) : Except Error Config :=
  match Url.parse text with
  | .ok url => ofUrl text url
  | .error e => .error ⟨.configuration,
      s!"invalid connection URL '{String.ofList text}': {e.message}"⟩

/-- Host and port of an authority: a host between brackets, or the text before the last colon. -/
def cutAuthority (text authority : List Char) :
    Except Error (List Char × Option (List Char)) :=
  match authority with
  | '[' :: rest =>
    match Text.cutAt? ']' rest with
    | some (host, ':' :: port) => .ok (host, some port)
    | some (host, _) => .ok (host, none)
    | none => .error ⟨.configuration,
        s!"unterminated IPv6 address in '{String.ofList text}'"⟩
  | _ =>
    match Text.cutAtLast? ':' authority with
    | some (host, port) => .ok (host, some port)
    | none => .ok (authority, none)

/-- The number of a port. -/
def readPort (text : List Char) : Option (List Char) → Except Error UInt16
  | none => .ok defaultPort
  | some port =>
    match Text.natural? 65535 port with
    | some n => .ok n.toUInt16
    | none => .error ⟨.configuration,
        s!"invalid port '{String.ofList port}' in '{String.ofList text}'"⟩

/-- The configuration of a host with optional port and database. -/
def parseBare (text : List Char) : Except Error Config := do
  let (authority, database) := (Text.cutAt? '/' text).getD (text, [])
  let (host, port) ← cutAuthority text authority
  if host = [] then throw (noHost text)
  let port ← readPort text port
  pure { Config.mysqlDefault with
    host := String.ofList host
    port
    database := Config.databaseNamed (String.ofList (dropTrailing '/' database)) }

/-- A colon and two slashes stand somewhere in the text. -/
def hasAuthorityMark : List Char → Bool
  | ':' :: '/' :: '/' :: _ => true
  | _ :: rest => hasAuthorityMark rest
  | [] => false

/-- The text without `jdbc:` in front of it. -/
def dropJdbc : List Char → List Char
  | 'j' :: 'd' :: 'b' :: 'c' :: ':' :: rest => rest
  | cs => cs

/-- The configuration of a target. -/
def parse (target : String) : Except Error Config :=
  let text := Text.trim target.toList
  if text = [] then .error ⟨.configuration, "connection string is empty"⟩
  else if hasAuthorityMark (dropJdbc text) then parseUrl (dropJdbc text)
  else parseBare text

end SqlProbe.Target
