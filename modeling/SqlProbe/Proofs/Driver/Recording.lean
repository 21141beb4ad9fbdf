import SqlProbe.Driver.Basic

/-!
# Drivers with a record of their calls

An exchange can be watched from the side, with a record beside its state. Each call to a driver is
put on record when it is answered, at once or at its end, with its outcome; what the calls do to the
state of the driver, and what comes of them, is the same as without the record.
-/

namespace SqlProbe

variable {σ ε α β : Type}

/-- The exchange beside a record, to which it adds some entries as it begins. -/
def Exchange.announced (exchange : Exchange σ ε α) (entries : List β) :
    Exchange (σ × List β) ε α where
  start s := (exchange.start s.1, s.2 ++ entries)
  span s := exchange.span s.1
  finish s :=
    let (outcome, after) := exchange.finish s.1
    (outcome, after, s.2)

/-- The call beside a record, to which it adds an entry for its outcome once that is there. -/
def Call.recorded (call : Call σ α) (entry : Except Error α → β) : Call (σ × List β) α where
  start s := (call.start s.1, s.2)
  span s := call.span s.1
  finish s :=
    let (outcome, after) := call.finish s.1
    (outcome, after, s.2 ++ [entry outcome])
  atOnce s := (call.atOnce s.1).map fun answered =>
    (answered.1, answered.2, s.2 ++ [entry answered.1])

theorem Call.run_recorded (call : Call σ α) (entry : Except Error α → β) (s : σ)
    (record : List β) : (call.recorded entry).run (s, record) =
      ((call.run s).1, (call.run s).2, record ++ [entry (call.run s).1]) := by
  unfold run
  cases answered : call.atOnce s with
  | none => simp only [recorded, answered, Option.map_none]; rfl
  | some _ => simp only [recorded, answered, Option.map_some]

/-- The error of an outcome. -/
def failureOf : Except Error α → Option Error
  | .error cause => some cause
  | .ok _ => none

namespace Driver

/-- A driver call that was made, and how it ended. -/
inductive Made where
  | connect (config : Config) (outcome : Except Error Nat)
  | query (connection : Nat) (sql : String) (params : List Value)
      (outcome : Except Error QueryResult)
  | execute (connection : Nat) (sql : String) (params : List Value)
      (outcome : Except Error StatementResult)
  | prepare (connection : Nat) (sql : String) (outcome : Except Error Sql.Statement)
  | bindStatement (statement : Sql.Statement) (index : Nat) (value : Value)
      (outcome : Except Error Sql.Statement)
  | queryStatement (connection : Nat) (statement : Sql.Statement)
      (outcome : Except Error QueryResult)
  | executeStatement (connection : Nat) (statement : Sql.Statement)
      (outcome : Except Error StatementResult)
  | closeStatement (connection : Nat) (statement : Sql.Statement) (outcome : Except Error Unit)
  | ping (connection : Nat) (outcome : Except Error Unit)
  | close (connection : Nat) (outcome : Except Error Unit)

/-- The error of a call that failed. -/
def Made.failure? : Made → Option Error
  | connect _ outcome => failureOf outcome
  | query _ _ _ outcome => failureOf outcome
  | execute _ _ _ outcome => failureOf outcome
  | prepare _ _ outcome => failureOf outcome
  | bindStatement _ _ _ outcome => failureOf outcome
  | queryStatement _ _ outcome => failureOf outcome
  | executeStatement _ _ outcome => failureOf outcome
  | closeStatement _ _ outcome => failureOf outcome
  | ping _ outcome => failureOf outcome
  | close _ outcome => failureOf outcome

/-- The call closes a connection. -/
def Made.isClose : Made → Bool
  | close _ _ => true
  | _ => false

/-- Some call has failed with an error, and it was not the closing of a connection. -/
def Failed (calls : List Made) (cause : Error) : Prop :=
  ∃ made ∈ calls, made.isClose = false ∧ made.failure? = some cause

theorem not_failed_nil (cause : Error) : ¬Failed [] cause := by
  rintro ⟨made, member, -⟩
  exact List.not_mem_nil member

theorem failed_append {calls more : List Made} {cause : Error} :
    Failed (calls ++ more) cause ↔ Failed calls cause ∨ Failed more cause := by
  simp only [Failed, List.mem_append, or_and_right, exists_or]

theorem failed_singleton {made : Made} {cause : Error} :
    Failed [made] cause ↔ made.isClose = false ∧ made.failure? = some cause := by
  simp only [Failed, List.mem_singleton, exists_eq_left]

/-- The driver with a record of its calls, the first of which comes first. -/
def recorded (driver : Driver σ) : Driver (σ × List Made) where
  profile := driver.profile
  connect config := (driver.connect config).recorded (.connect config)
  serverInfo connection s := driver.serverInfo connection s.1
  session connection s := driver.session connection s.1
  query connection sql params :=
    (driver.query connection sql params).recorded (.query connection sql params)
  execute connection sql params :=
    (driver.execute connection sql params).recorded (.execute connection sql params)
  prepare connection sql := (driver.prepare connection sql).recorded (.prepare connection sql)
  bindStatement statement index value :=
    (driver.bindStatement statement index value).recorded (.bindStatement statement index value)
  queryStatement connection statement :=
    (driver.queryStatement connection statement).recorded (.queryStatement connection statement)
  executeStatement connection statement :=
    (driver.executeStatement connection statement).recorded (.executeStatement connection statement)
  closeStatement connection statement :=
    (driver.closeStatement connection statement).recorded (.closeStatement connection statement)
  ping connection := (driver.ping connection).recorded (.ping connection)
  close connection := (driver.close connection).recorded (.close connection)
  isClosed connection s := driver.isClosed connection s.1

end Driver

end SqlProbe
