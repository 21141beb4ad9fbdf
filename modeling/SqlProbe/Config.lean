import SqlProbe.SortedMap
import SqlProbe.Tls.Basic

/-!
# Connection configurations

Where and how to connect.
-/

namespace SqlProbe

/-- Where and how to connect. -/
structure Config where
  /-- The name to show. -/
  name : String
  driver : String
  host : String := ""
  port : UInt16 := 0
  database : Option String := none
  username : Option String := none
  password : Option String := none
  tls : Tls.Settings := {}
  /-- How long a connect may take, in milliseconds. -/
  connectTimeout : Nat := 10000
  /-- Everything else a driver may use. -/
  params : SortedMap String := ∅
  deriving DecidableEq

namespace Config

/-- An empty database name names none. -/
def databaseNamed (name : String) : Option String := if name = "" then none else some name

/-- A configuration of the MySQL driver in which nothing is set. -/
def mysqlDefault : Config := { name := "MySQL", driver := "mysql" }

/-- A configuration of the MySQL driver. -/
def mysql (host : String) (port : UInt16) (database username : String) : Config :=
  { mysqlDefault with
    host, port, database := databaseNamed database, username := some username }

/-- The configuration with other credentials. -/
def withCredentials (config : Config) (username password : String) : Config :=
  { config with username := some username, password := some password }

/-- Host, port and database, as reports show them. -/
def target (config : Config) : String :=
  config.host ++ ":" ++ toString config.port.toNat ++
    match config.database with
    | some database => "/" ++ database
    | none => ""

end Config

end SqlProbe
