/-!
# Errors

What can go wrong, by the part of the work that failed. Reports name the kind; the message puts the
kind's heading in front of the detail, which often comes from a server and may be any text.
-/

namespace SqlProbe

/-- The part of the work that failed. -/
inductive Error.Kind where
  | connection
  | query
  | driver
  | configuration
  | security
  | io
  | serialization
  | notSupported
  | notFound
  | timeout
  | other
  deriving DecidableEq, Repr

/-- The stable name of a kind, as it stands in reports. -/
def Error.Kind.name : Error.Kind → String
  | connection => "connection"
  | query => "query"
  | driver => "driver"
  | configuration => "configuration"
  | security => "security"
  | io => "io"
  | serialization => "serialization"
  | notSupported => "not_supported"
  | notFound => "not_found"
  | timeout => "timeout"
  | other => "other"

/-- Every kind, in the order of declaration. -/
def Error.Kind.all : List Error.Kind :=
  [connection, query, driver, configuration, security, io, serialization, notSupported, notFound,
    timeout, other]

/-- The kind with a given name. -/
def Error.Kind.ofName? (name : String) : Option Error.Kind :=
  Error.Kind.all.find? fun kind => kind.name == name

/-- What stands in front of the detail in the message of an error. -/
def Error.Kind.heading : Error.Kind → String
  | connection => "Connection error: "
  | query => "Query error: "
  | driver => "Driver error: "
  | configuration => "Configuration error: "
  | security => "Security error: "
  | io => "IO error: "
  | serialization => "Serialization error: "
  | notSupported => "Not supported: "
  | notFound => "Not found: "
  | timeout => "Timeout: "
  | other => ""

/-- An error: the part of the work that failed and what it had to say. -/
structure Error where
  kind : Error.Kind
  detail : String
  deriving DecidableEq, Repr

/-- The message of an error. -/
def Error.message (e : Error) : String := e.kind.heading ++ e.detail

end SqlProbe
