import SqlProbe.Config

/-!
# Driver profiles

What a driver says of itself without a connection: its names, where its servers listen by default,
and how its targets are written.
-/

namespace SqlProbe.Driver

/-- How a driver prepares statements. -/
structure Capabilities where
  serverStatements : Bool
  clientStatements : Bool
  deriving DecidableEq, Repr

/-- Where statements are prepared, as reports show it. -/
def Capabilities.preparedStatements (capabilities : Capabilities) : String :=
  if capabilities.serverStatements then "server-side"
  else if capabilities.clientStatements then "client-side"
  else "unsupported"

/-- The version of all drivers. -/
def version : String := "0.1.0"

/-- What a driver says of itself. -/
structure Profile where
  name : String
  displayName : String := name
  capabilities : Capabilities
  defaultPort : UInt16
  /-- The forms of targets, for users. -/
  targetHelp : String := ""
  /-- Reads a target. -/
  parseTarget : String → Except Error Config :=
    fun _ => .error ⟨.notSupported,
      "Connection string parsing not implemented for this driver"⟩
  /-- Writes the target of a configuration. -/
  buildTarget : Config → String

end SqlProbe.Driver
