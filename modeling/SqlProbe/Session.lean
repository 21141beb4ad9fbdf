import SqlProbe.Json.Record
import SqlProbe.Row

/-!
# Sessions

What a client knows of an open connection: the state of its session and what the server said of
itself when it was opened.
-/

namespace SqlProbe

/-- How far a transaction is kept apart from others. -/
inductive Isolation where
  | readUncommitted
  | readCommitted
  | repeatableRead
  | serializable
  deriving DecidableEq, Repr

namespace Isolation

/-- Every level, the weakest first. -/
def all : List Isolation := [readUncommitted, readCommitted, repeatableRead, serializable]

/-- The number of a level. -/
def code : Isolation → Nat
  | readUncommitted => 1
  | readCommitted => 2
  | repeatableRead => 4
  | serializable => 8

/-- The name of a level in SQL. -/
def text : Isolation → String
  | readUncommitted => "READ-UNCOMMITTED"
  | readCommitted => "READ-COMMITTED"
  | repeatableRead => "REPEATABLE-READ"
  | serializable => "SERIALIZABLE"

/-- The name of a level in JSON. -/
def jsonName : Isolation → String
  | readUncommitted => "READ_UNCOMMITTED"
  | readCommitted => "READ_COMMITTED"
  | repeatableRead => "REPEATABLE_READ"
  | serializable => "SERIALIZABLE"

/-- Reads the JSON form of a level. -/
def ofJson? : Json → Option Isolation
  | .string name => all.find? fun level => level.jsonName == name
  | .object [(name, .null)] => all.find? fun level => level.jsonName == name
  | _ => none

end Isolation

/-- The state of a session. -/
structure SessionInfo where
  autoCommit : Bool := true
  readOnly : Bool := false
  isolation : Isolation := .repeatableRead
  /-- The current database. -/
  catalog : Option String := none
  timeZone : Option String := none
  characterEncoding : Option String := none
  deriving DecidableEq, Repr

/-- What a server says of itself. -/
structure ServerInfo where
  productName : String := ""
  version : String := ""
  connectionId : Nat := 0
  deriving DecidableEq, Repr

namespace SessionInfo

/-- The JSON form of a session. -/
def toJson (session : SessionInfo) : Json :=
  .object [("auto_commit", .bool session.autoCommit), ("read_only", .bool session.readOnly),
    ("isolation", .string session.isolation.jsonName),
    ("catalog", .orNull .string session.catalog), ("time_zone", .orNull .string session.timeZone),
    ("character_encoding", .orNull .string session.characterEncoding)]

/-- Reads the JSON form of a session. -/
def ofJson? (json : Json) : Option SessionInfo := do
  let parts ← json.parts?
    ["auto_commit", "read_only", "isolation", "catalog", "time_zone", "character_encoding"]
  pure {
    autoCommit := ← parts.required 0 Json.asBool?
    readOnly := ← parts.required 1 Json.asBool?
    isolation := ← parts.required 2 Isolation.ofJson?
    catalog := ← parts.optional 3 Json.asString?
    timeZone := ← parts.optional 4 Json.asString?
    characterEncoding := ← parts.optional 5 Json.asString? }

end SessionInfo

namespace ServerInfo

/-- The JSON form of what a server says of itself. -/
def toJson (server : ServerInfo) : Json :=
  .object [("product_name", .string server.productName), ("version", .string server.version),
    ("connection_id", .natural server.connectionId)]

/-- Reads the JSON form of what a server says of itself. -/
def ofJson? (json : Json) : Option ServerInfo := do
  let parts ← json.parts? ["product_name", "version", "connection_id"]
  pure {
    productName := ← parts.required 0 Json.asString?
    version := ← parts.required 1 Json.asString?
    connectionId := ← parts.required 2 (Json.asNatural? (Nat.pow 2 32 - 1)) }

end ServerInfo

namespace Column

/-- The JSON form of a column. -/
def toJson (column : Column) : Json :=
  .object [("name", .string column.name), ("data_type", .string column.dataType),
    ("nullable", .bool column.nullable), ("ordinal", .natural column.ordinal),
    ("max_length", .orNull .integer column.maxLength)]

/-- Reads the JSON form of a column, whose fields all have defaults. -/
def ofJson? (json : Json) : Option Column := do
  let parts ← json.parts? ["name", "data_type", "nullable", "ordinal", "max_length"]
  pure {
    name := ← parts.defaulted 0 "" Json.asString?
    dataType := ← parts.defaulted 1 "" Json.asString?
    nullable := ← parts.defaulted 2 false Json.asBool?
    ordinal := ← parts.defaulted 3 0 Json.asWord?
    maxLength := ← parts.defaulted 4 none
      (Json.asOption? (Json.asInteger? Int64.minValue.toInt Int64.maxValue.toInt)) }

end Column

end SqlProbe
