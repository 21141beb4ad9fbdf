import SqlProbe.Driver.Basic
import SqlProbe.Mysql.Wire
import SqlProbe.Tls.Plan

/-!
# Networks

What the MySQL driver needs of the network and of the servers behind it: handshakes, statements,
pings and farewells. A network has a state of its own and tells in its own words why something
failed. A server gives each connection a number.
-/

namespace SqlProbe.Mysql

/-- A handshake as a client attempts it. -/
structure Handshake where
  host : String
  port : UInt16
  database : Option String
  username : Option String
  password : Option String
  /-- How it is encrypted; not at all without options. -/
  encryption : Option Tls.Options
  deriving DecidableEq

/-- What a server says in a handshake. -/
structure Greeting where
  /-- Its version, as it writes it. -/
  version : String
  connectionId : Nat
  deriving DecidableEq, Repr

/-- What a server says about a column. -/
structure WireColumn where
  name : String
  type : ColumnType
  length : Nat := 0
  notNull : Bool := false
  deriving DecidableEq, Repr

/-- What a server answers to a plain query. Its cells are texts; a cell without one is NULL. -/
structure WireAnswer where
  columns : List WireColumn := []
  rows : List (List (Option (List UInt8))) := []
  affectedRows : Nat := 0
  insertId : Option Nat := none

/-- A network with state `σ`. -/
structure Network (σ : Type) where
  handshake : Handshake → Exchange σ String Greeting
  ask : Nat → String → Exchange σ String WireAnswer
  ping : Nat → Exchange σ String Unit
  disconnect : Nat → Exchange σ String Unit

/-- What a transport says when it fails for the given reason. -/
def transportFailure (reason : String) : String :=
  "Input/output error: Input/output error: " ++ reason

/-- Why nothing can be reached where there is no network. -/
def noRoute : String := "Network is unreachable (os error 101)"

/-- A network on which nothing can be reached, for the given reason. -/
def Network.unreachable {σ : Type} (reason : String) : Network σ where
  handshake _ := .instant fun _ => .error (transportFailure reason)
  ask _ _ := .instant fun _ => .error (transportFailure reason)
  ping _ := .instant fun _ => .error (transportFailure reason)
  disconnect _ := .instant fun _ => .error (transportFailure reason)

end SqlProbe.Mysql
