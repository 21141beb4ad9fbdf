import SqlProbe.Driver.Basic

/-!
# Sessions

A session makes calls on one connection and on the statements that it has prepared there, in any
order. It need not wait for one call before it makes the next. A call that is not answered at once is
under way until it ends, which may be before or after the end of others, or until it is given up.
-/

namespace SqlProbe

/-- A call that a session makes on its connection or on one of its statements. A statement has the
number of the call that prepared it among all calls that prepare, in the order in which these were
answered, counted from zero. -/
inductive Request where
  | execute (sql : String) (params : List Value)
  | query (sql : String) (params : List Value)
  | prepare (sql : String)
  | ping
  | close
  | isClosed
  | bindStatement (number index : Nat) (value : Value)
  | clearStatement (number : Nat)
  | queryStatement (number : Nat)
  | executeStatement (number : Nat)
  | closeStatement (number : Nat)
  deriving DecidableEq

/-- What a session is told about a call. -/
inductive Answer where
  | result (outcome : Except Error StatementResult)
  | rows (outcome : Except Error QueryResult)
  | done (outcome : Except Error Unit)
  | flag (value : Bool)
  /-- The session has no such statement, and no call is made. -/
  | noStatement

/-- An answer that tells only whether a call has failed. -/
def Answer.ofOutcome {α : Type} (outcome : Except Error α) : Answer :=
  .done (outcome.map fun _ => ())

/-- What a call comes to: what the session is told, and what becomes of its statements. -/
structure Reply where
  answer : Answer
  statements : List (Option Sql.Statement) → List (Option Sql.Statement) := id

/-- A call as a session makes it. -/
structure Invocation (τ : Type) where
  atOnce : τ → Option (Reply × τ)
  start : τ → τ
  finish : τ → Reply × τ

namespace Invocation

variable {τ α : Type}

/-- A call to the driver, whose outcome makes the reply. -/
def of (call : Call τ α) (reply : Except Error α → Reply) : Invocation τ where
  atOnce s := (call.atOnce s).map fun answered => (reply answered.1, answered.2)
  start := call.start
  finish s := (reply (call.finish s).1, (call.finish s).2)

/-- What a session can tell by itself. -/
def instant (reply : τ → Reply) : Invocation τ where
  atOnce s := some (reply s, s)
  start := id
  finish s := (reply s, s)

end Invocation

/-- A session over a driver with state `τ`. -/
structure Session (τ : Type) where
  state : τ
  /-- The statements by their numbers, as far as they were prepared and are not closed. -/
  statements : List (Option Sql.Statement) := []
  /-- The calls under way, in the order in which they were made. -/
  underWay : List (Invocation τ) := []

namespace Session

/-- What happens in a session. -/
inductive Event where
  | call (request : Request)
  /-- One of the calls under way ends. -/
  | ends (place : Nat)
  /-- One of the calls under way is given up. -/
  | givenUp (place : Nat)

/-- The event is a call that the session makes. -/
def Event.isCall : Event → Bool
  | call _ => true
  | _ => false

variable {τ : Type} (driver : Driver τ) (connection : Nat) (session : Session τ)

/-- A statement that can be used. -/
def statement? (number : Nat) : Option Sql.Statement := session.statements[number]?.join

/-- A call on a statement, if there is one of that number. -/
def onStatement (number : Nat) (invocation : Sql.Statement → Invocation τ) : Invocation τ :=
  (session.statement? number).elim (.instant fun _ => { answer := .noStatement }) invocation

/-- The call that a request makes. -/
def invocation : Request → Invocation τ
  | .execute sql params =>
    .of (driver.execute connection sql params) fun outcome => { answer := .result outcome }
  | .query sql params =>
    .of (driver.query connection sql params) fun outcome => { answer := .rows outcome }
  | .prepare sql => .of (driver.prepare connection sql) fun outcome =>
    { answer := .ofOutcome outcome, statements := (· ++ [outcome.toOption]) }
  | .ping => .of (driver.ping connection) fun outcome => { answer := .done outcome }
  | .close => .of (driver.close connection) fun outcome => { answer := .done outcome }
  | .isClosed => .instant fun state => { answer := .flag (driver.isClosed connection state) }
  | .bindStatement number index value => session.onStatement number fun statement =>
    .of (driver.bindStatement statement index value) fun outcome =>
      { answer := .ofOutcome outcome
        statements := (·.set number (some (outcome.toOption.getD statement))) }
  | .clearStatement number => session.onStatement number fun statement =>
    .instant fun _ =>
      { answer := .done (.ok ()), statements := (·.set number (some statement.clear)) }
  | .queryStatement number => session.onStatement number fun statement =>
    .of (driver.queryStatement connection statement) fun outcome => { answer := .rows outcome }
  | .executeStatement number => session.onStatement number fun statement =>
    .of (driver.executeStatement connection statement) fun outcome => { answer := .result outcome }
  | .closeStatement number => session.onStatement number fun statement =>
    .of (driver.closeStatement connection statement) fun outcome =>
      { answer := .done outcome, statements := (·.set number none) }

/-- Takes the reply to a call: what the session is told, and the session afterwards. -/
def receive (replied : Reply × τ) : Option Answer × Session τ :=
  (some replied.1.answer,
    { session with state := replied.2, statements := replied.1.statements session.statements })

/-- Makes a call, which is under way if it is not answered at once. -/
def make (invocation : Invocation τ) : Option Answer × Session τ :=
  match invocation.atOnce session.state with
  | some replied => session.receive replied
  | none =>
    (none, { session with
      state := invocation.start session.state
      underWay := session.underWay ++ [invocation] })

/-- What an event tells the session, and the session afterwards. -/
def step : Event → Option Answer × Session τ
  | .call request => session.make (session.invocation driver connection request)
  | .ends place =>
    match session.underWay[place]? with
    | some invocation =>
      { session with underWay := session.underWay.eraseIdx place }.receive
        (invocation.finish session.state)
    | none => (none, session)
  | .givenUp place => (none, { session with underWay := session.underWay.eraseIdx place })

/-- The session after some events. -/
def after (events : List Event) : Session τ :=
  events.foldl (fun session event => (session.step driver connection event).2) session

theorem after_concat (events : List Event) (event : Event) :
    session.after driver connection (events ++ [event]) =
      ((session.after driver connection events).step driver connection event).2 :=
  List.foldl_append

/-- What every event keeps is kept by all of them. -/
theorem after_keeps {Inv : Session τ → Prop}
    (kept : ∀ session event, Inv session → Inv (session.step driver connection event).2)
    {session : Session τ} (inv : Inv session) (events : List Event) :
    Inv (session.after driver connection events) := by
  induction events generalizing session with
  | nil => exact inv
  | cons event events ih => exact ih (kept session event inv)

/-- A call that is answered at once is not under way. -/
theorem make_of_atOnce {session : Session τ} {invocation : Invocation τ} {reply : Reply}
    (answered : invocation.atOnce session.state = some (reply, session.state)) :
    (session.make invocation).1 = some reply.answer ∧
      (session.make invocation).2.state = session.state ∧
      (session.make invocation).2.underWay = session.underWay := by
  rw [make, answered]
  exact ⟨rfl, rfl, rfl⟩

/-! ### Sessions that differ in their statements only -/

/-- The calls under way, and what they find, are the same. -/
structure Agrees (s t : Session τ) : Prop where
  state : s.state = t.state
  underWay : s.underWay = t.underWay

/-- Calls under way end in the same way whatever the statements are. -/
theorem Agrees.step {s t : Session τ} (agrees : Agrees s t) {event : Event}
    (other : event.isCall = false) :
    Agrees (s.step driver connection event).2 (t.step driver connection event).2 := by
  obtain ⟨state, underWay⟩ := agrees
  cases event with
  | call => contradiction
  | ends place =>
    rw [Session.step, Session.step, state, underWay]
    cases t.underWay[place]? with
    | none => exact ⟨state, underWay⟩
    | some invocation => exact ⟨rfl, rfl⟩
  | givenUp place => exact ⟨state, congrArg (List.eraseIdx · place) underWay⟩

end Session

end SqlProbe
