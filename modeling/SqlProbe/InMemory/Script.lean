import SqlProbe.Error
import SqlProbe.Row
import SqlProbe.SortedMap

/-!
# Scripts of in-memory servers

What a server in memory does with each call: whom it lets in, what it answers to which SQL, what
fails and how long everything takes.
-/

namespace SqlProbe.InMemory

/-- What the server does with a ping. -/
inductive Ping where
  | answers (delay : Nat)
  | fails (delay : Nat) (detail : String)
  | hangs
  deriving DecidableEq, Repr

/-- An answer with rows of values under the given labels. -/
def answerOf (labels : List String) (rows : List (List Value)) (affectedRows elapsedMillis : Nat) :
    QueryResult where
  columns := labels.mapIdx fun ordinal name => { name, ordinal }
  rows := rows.map fun values => ⟨labels, values⟩
  affectedRows := affectedRows
  elapsedMillis := elapsedMillis

/-- An answer with one column. -/
def columnOf (label : String) (values : List Value) : Except Error QueryResult :=
  .ok (answerOf [label] (values.map fun value => [value]) 0 0)

/-- The passwords of the accounts that are there by default. -/
def defaultAccounts : SortedMap String :=
  SortedMap.ofList [("root", ""), ("test", "test"), ("admin", "admin123")]

/-- The version of the server. -/
def serverVersion : String := "5.7.0-tiny"

/-- The answers that are there by default. -/
def defaultAnswers : List (String × Except Error QueryResult) :=
  [("SELECT 1 as result", columnOf "result" [.int64 1]),
    ("SELECT 1", columnOf "1" [.int64 1]),
    ("SELECT VERSION() as version", columnOf "version" [.string serverVersion]),
    ("SELECT VERSION()", columnOf "VERSION()" [.string serverVersion]),
    ("SELECT DATABASE() as db", columnOf "db" [.string "test"]),
    ("SELECT DATABASE()", columnOf "DATABASE()" [.string "test"]),
    ("SHOW DATABASES", columnOf "Database" [.string "information_schema", .string "test"]),
    ("SELECT 42 as result", columnOf "result" [.int64 42])]

/-- What a server does with each call. Delays are in milliseconds. -/
structure Script where
  /-- The passwords by user name. -/
  accounts : SortedMap String := defaultAccounts
  /-- The answers by SQL; an earlier one comes first. -/
  answers : List (String × Except Error QueryResult) := defaultAnswers
  /-- The error of every connect. -/
  refusal : Option Error := none
  connectDelay : Nat := 0
  queryDelay : Nat := 0
  closeDelay : Nat := 0
  ping : Ping := .answers 0
  /-- Why connections cannot be closed. -/
  closeFailure : Option String := none
  prepareFailure : Option Error := none
  /-- Why statements cannot be closed. -/
  statementCloseFailure : Option String := none
  /-- The number of parameters of every statement, where it is not that of the placeholders. -/
  statementSlots : Option Nat := none
  serverStatements : Bool := false
  clientStatements : Bool := true
  /-- Connections know neither their server nor their session, and are pinged by a query. -/
  minimal : Bool := false

namespace Script

/-- What the server answers to SQL. -/
def answer (script : Script) (sql : String) : Except Error QueryResult :=
  (script.answers.lookup sql).getD (.error ⟨.query, "unknown statement: " ++ sql⟩)

/-- The user has an account with this password. -/
def hasAccount (script : Script) (user password : String) : Bool :=
  script.accounts.get? user == some password

end Script

end SqlProbe.InMemory
