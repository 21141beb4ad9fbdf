import SqlProbe.Mysql.Client
import SqlProbe.Mysql.ScriptedServer
import SqlProbe.Proofs.Driver.Sessions

/-!
# Calls on a closed connection

A session may go on making calls when it has begun to close its connection, on the connection and on
the statements that it has prepared there. From the moment of the first closing on, while that one is
still under way and whatever comes of it, the client answers each further call at once and by itself:
work is refused for this reason and no other, and closing the connection again is no more than a word.
All that still happens comes of calls that were made before.
-/

namespace SqlProbe.Mysql

variable {σ α : Type}

/-! ### Closed connections -/

namespace Client

/-- The client has opened a connection. -/
def Knows (connection : Nat) (client : Client σ) : Prop := (client.link? connection).isSome = true

/-- Of a connection no more is forgotten than that it was open. -/
structure Keeps (connection : Nat) (client after : Client σ) : Prop where
  known : client.Knows connection → after.Knows connection
  closed : client.isClosed connection = true → after.isClosed connection = true

section
variable {connection : Nat} {client after : Client σ}

theorem Keeps.refl (client : Client σ) : Keeps connection client client := ⟨id, id⟩

theorem Keeps.trans {last : Client σ} (first : Keeps connection client after)
    (second : Keeps connection after last) : Keeps connection client last :=
  ⟨second.known ∘ first.known, second.closed ∘ first.closed⟩

theorem link?_congr (same : after.links = client.links) :
    after.link? connection = client.link? connection := by
  rw [link?, link?, same]

theorem Keeps.of_links (same : after.links = client.links) : Keeps connection client after where
  known known := by rwa [Knows, link?_congr same]
  closed closed := by rwa [isClosed, link?_congr same]

theorem link?_shut (client : Client σ) (connection : Nat) :
    (client.shut connection).link? connection =
      (client.link? connection).map fun link => { link with closed := true } := by
  simp [link?, shut, List.getElem?_modify_eq]

theorem isClosed_shut (known : client.Knows connection) :
    (client.shut connection).isClosed connection = true := by
  obtain ⟨link, known⟩ := Option.isSome_iff_exists.mp known
  rw [isClosed, link?_shut, known]
  rfl

theorem Keeps.shut (client : Client σ) (connection : Nat) :
    Keeps connection client (client.shut connection) where
  known known := by rwa [Knows, link?_shut, Option.isSome_map]
  closed closed := by
    refine isClosed_shut (Option.isSome_iff_ne_none.mpr fun unknown => ?_)
    rw [isClosed, unknown] at closed
    contradiction

/-- Work on a closed connection is refused at once and changes nothing, the network included. -/
theorem atOnce_onOpen (closed : client.isClosed connection = true) (call : Call (Client σ) α) :
    (onOpen connection call).atOnce client = some (.error connectionClosed, client) :=
  if_pos closed

/-- A closed connection is closed again at once and without a farewell. -/
theorem atOnce_close (network : Network σ) (closed : client.isClosed connection = true) :
    (close network connection).atOnce client = some (.ok (), client) :=
  if_pos closed

end

/-! ### What calls do to the connections of a client -/

/-- A call leaves the connections of the client as they are, and all the rest where it is answered at
once. -/
structure Spares (call : Call (Client σ) α) : Prop where
  atOnce : ∀ client answered, call.atOnce client = some answered → answered.2 = client
  start : ∀ client, (call.start client).links = client.links
  finish : ∀ client, (call.finish client).2.links = client.links

namespace Spares

theorem instant (outcome : Client σ → Except Error α) : Spares (.instant outcome) where
  atOnce := by rintro client _ ⟨⟩; rfl
  start _ := rfl
  finish _ := rfl

theorem onNetwork (exchange : Client σ → Exchange σ Error α) :
    Spares { toExchange := onNetwork exchange } :=
  ⟨nofun, fun _ => rfl, fun _ => rfl⟩

theorem onOpen (connection : Nat) {call : Call (Client σ) α} (spares : Spares call) :
    Spares (onOpen connection call) where
  atOnce client answered answer := by
    dsimp only [Client.onOpen] at answer
    split at answer
    · cases answer
      rfl
    · exact spares.atOnce client answered answer
  start := spares.start
  finish := spares.finish

theorem sendText (network : Network σ) (connection : Nat) (read : Nat → WireAnswer → α)
    (text : Except Error String) : Spares (sendText network connection read text) := by
  refine onOpen connection ?_
  cases text with
  | error cause => exact instant _
  | ok sql => exact ⟨nofun, fun _ => rfl, fun _ => rfl⟩

end Spares

/-- A call of a session neither forgets a connection nor opens it again, and changes nothing where it
is answered at once. -/
structure Lasting (connection : Nat) (invocation : Invocation (Client σ)) : Prop where
  atOnce : ∀ client replied, invocation.atOnce client = some replied → replied.2 = client
  start : ∀ client, Keeps connection client (invocation.start client)
  finish : ∀ client, Keeps connection client (invocation.finish client).2

namespace Lasting

variable {connection : Nat}

theorem instant (reply : Client σ → Reply) : Lasting connection (.instant reply) where
  atOnce := by rintro client _ ⟨⟩; rfl
  start := .refl
  finish := .refl

theorem of_spares {call : Call (Client σ) α} (spares : Spares call)
    (reply : Except Error α → Reply) : Lasting connection (.of call reply) where
  atOnce client replied answer := by
    obtain ⟨answered, early, rfl⟩ := Option.map_eq_some_iff.mp answer
    exact spares.atOnce client answered early
  start client := .of_links (spares.start client)
  finish client := .of_links (spares.finish client)

theorem close (network : Network σ) (reply : Except Error Unit → Reply) :
    Lasting connection (.of (close network connection) reply) where
  atOnce client replied answer := by
    obtain ⟨answered, early, rfl⟩ := Option.map_eq_some_iff.mp answer
    dsimp only [Client.close] at early
    split at early <;> cases early
    rfl
  start client := (Keeps.shut client connection).trans (.of_links rfl)
  finish client := .of_links rfl

end Lasting

end Client

/-! ### Sessions on a client -/

/-- What a call on a connection comes to once the connection has been closed. All work is refused,
whatever it is given; closing does nothing, and what statements do by themselves goes on. -/
def answerShut (statement? : Nat → Option Sql.Statement) : Request → Answer
  | .execute _ _ => .result (.error ⟨.connection, "connection is closed"⟩)
  | .query _ _ => .rows (.error ⟨.connection, "connection is closed"⟩)
  | .prepare _ => .done (.error ⟨.connection, "connection is closed"⟩)
  | .ping => .done (.error ⟨.connection, "connection is closed"⟩)
  | .close => .done (.ok ())
  | .isClosed => .flag true
  | .bindStatement number index value =>
    (statement? number).elim .noStatement fun statement => .ofOutcome (statement.bind index value)
  | .clearStatement number => (statement? number).elim .noStatement fun _ => .done (.ok ())
  | .queryStatement number =>
    (statement? number).elim .noStatement fun _ =>
      .rows (.error ⟨.connection, "connection is closed"⟩)
  | .executeStatement number =>
    (statement? number).elim .noStatement fun _ =>
      .result (.error ⟨.connection, "connection is closed"⟩)
  | .closeStatement number => (statement? number).elim .noStatement fun _ => .done (.ok ())

open Client (Keeps Lasting Spares)

section
variable (fileExists : String → Bool) (network : Network σ) {connection : Nat}
variable {session : Session (Client σ)}

theorem lasting_invocation (session : Session (Client σ)) (request : Request) :
    Lasting connection (session.invocation (driver fileExists network) connection request) := by
  have onStatement {number : Nat} {invocation : Sql.Statement → Invocation (Client σ)}
      (lasting : ∀ statement, Lasting connection (invocation statement)) :
      Lasting connection (session.onStatement number invocation) := by
    rw [Session.onStatement]
    cases session.statement? number with
    | none => exact .instant _
    | some statement => exact lasting statement
  unfold Session.invocation
  cases request with
  | execute sql params => exact .of_spares (.sendText ..) _
  | query sql params => exact .of_spares (.sendText ..) _
  | prepare sql => exact .of_spares ((Spares.instant _).onOpen connection) _
  | ping => exact .of_spares ((Spares.onNetwork _).onOpen connection) _
  | close => exact .close network _
  | isClosed => exact .instant _
  | bindStatement => exact onStatement fun _ => .of_spares (.instant _) _
  | clearStatement => exact onStatement fun _ => .instant _
  | queryStatement => exact onStatement fun _ => .of_spares (.sendText ..) _
  | executeStatement => exact onStatement fun _ => .of_spares (.sendText ..) _
  | closeStatement => exact onStatement fun _ => .of_spares (.instant _) _

/-- The client knows the connection, and no call under way forgets it or opens it again. -/
structure Sound (connection : Nat) (session : Session (Client σ)) : Prop where
  known : session.state.Knows connection
  underWay : ∀ invocation ∈ session.underWay, Lasting connection invocation

namespace Sound

theorem keeps_make (sound : Sound connection session) {invocation : Invocation (Client σ)}
    (lasting : Lasting connection invocation) :
    Keeps connection session.state (session.make invocation).2.state ∧
      ∀ pending ∈ (session.make invocation).2.underWay, Lasting connection pending := by
  rw [Session.make]
  cases answered : invocation.atOnce session.state with
  | none =>
    refine ⟨lasting.start _, fun pending member => ?_⟩
    rcases List.mem_append.mp member with before | new
    · exact sound.underWay pending before
    · exact List.mem_singleton.mp new ▸ lasting
  | some replied =>
    refine ⟨?_, sound.underWay⟩
    change Keeps connection session.state replied.2
    rw [lasting.atOnce _ _ answered]
    exact .refl _

theorem keeps_step (sound : Sound connection session) (event : Session.Event) :
    let next := (session.step (driver fileExists network) connection event).2
    Keeps connection session.state next.state ∧
      ∀ pending ∈ next.underWay, Lasting connection pending := by
  have fewer {place : Nat} (pending : Invocation (Client σ))
      (member : pending ∈ session.underWay.eraseIdx place) : Lasting connection pending :=
    sound.underWay pending (List.mem_of_mem_eraseIdx member)
  cases event with
  | call request => exact sound.keeps_make (lasting_invocation fileExists network session request)
  | ends place =>
    rw [Session.step]
    cases found : session.underWay[place]? with
    | none => exact ⟨.refl _, sound.underWay⟩
    | some invocation =>
      exact ⟨(sound.underWay _ (List.mem_of_getElem? found)).finish _, fewer⟩
  | givenUp place => exact ⟨.refl _, fewer⟩

/-- Whatever happens, a session stays sound. -/
theorem step (sound : Sound connection session) (event : Session.Event) :
    Sound connection (session.step (driver fileExists network) connection event).2 :=
  have kept := sound.keeps_step fileExists network event
  ⟨kept.1.known sound.known, kept.2⟩

theorem after (sound : Sound connection session) (events : List Session.Event) :
    Sound connection (session.after (driver fileExists network) connection events) :=
  Session.after_keeps _ _ (fun s event (sound : Sound connection s) =>
    sound.step fileExists network event) sound events

/-- A connection that is closed stays so. -/
theorem closed_after (sound : Sound connection session)
    (closed : session.state.isClosed connection = true) (events : List Session.Event) :
    (session.after (driver fileExists network) connection events).state.isClosed connection =
      true := by
  induction events generalizing session with
  | nil => exact closed
  | cons event events ih =>
    exact ih (sound.step fileExists network event)
      ((sound.keeps_step fileExists network event).1.closed closed)

/-- As soon as a call to close the connection has been made, the connection is closed. -/
theorem closed_of_close (sound : Sound connection session) :
    (session.step (driver fileExists network) connection (.call .close)).2.state.isClosed
      connection = true := by
  by_cases closed : session.state.isClosed connection = true
  · exact (sound.keeps_step fileExists network (.call .close)).1.closed closed
  · have begins : (Client.close network connection).atOnce session.state = none := if_neg closed
    rw [Session.step, Session.invocation, Session.make, Invocation.of]
    dsimp only [driver]
    rw [begins]
    exact Client.isClosed_shut sound.known

end Sound

/-- On a closed connection a call is answered at once and by the client alone, which it leaves as it
is. -/
theorem answered_alone (closed : session.state.isClosed connection = true) (request : Request) :
    let made := session.step (driver fileExists network) connection (.call request)
    made.1 = some (answerShut session.statement? request) ∧ made.2.state = session.state ∧
      made.2.underWay = session.underWay := by
  have replied {invocation : Invocation (Client σ)} {answer : Answer} (reply : Reply)
      (atOnce : invocation.atOnce session.state = some (reply, session.state))
      (told : reply.answer = answer) :
      (session.make invocation).1 = some answer ∧
        (session.make invocation).2.state = session.state ∧
        (session.make invocation).2.underWay = session.underWay :=
    told ▸ Session.make_of_atOnce atOnce
  have refused {α : Type} (call : Call (Client σ) α) (reply : Except Error α → Reply) :
      (Invocation.of (Client.onOpen connection call) reply).atOnce session.state =
        some (reply (.error Client.connectionClosed), session.state) :=
    congrArg (Option.map _) (Client.atOnce_onOpen closed call)
  have onStatement {number : Nat} {invocation : Sql.Statement → Invocation (Client σ)}
      {answer : Sql.Statement → Answer}
      (alone : ∀ statement, (session.make (invocation statement)).1 = some (answer statement) ∧
        (session.make (invocation statement)).2.state = session.state ∧
        (session.make (invocation statement)).2.underWay = session.underWay) :
      let made := session.make (session.onStatement number invocation)
      made.1 = some ((session.statement? number).elim .noStatement answer) ∧
        made.2.state = session.state ∧ made.2.underWay = session.underWay := by
    rw [Session.onStatement]
    cases session.statement? number with
    | none => exact ⟨rfl, rfl, rfl⟩
    | some statement => exact alone statement
  rw [Session.step]
  unfold Session.invocation
  cases request with
  | execute sql params => exact replied _ (refused ..) rfl
  | query sql params => exact replied _ (refused ..) rfl
  | prepare sql => exact replied _ (refused ..) rfl
  | ping => exact replied _ (refused ..) rfl
  | close =>
    exact replied _ (congrArg (Option.map _) (Client.atOnce_close network closed)) rfl
  | isClosed => exact replied _ rfl (congrArg Answer.flag closed)
  | bindStatement => exact onStatement fun _ => ⟨rfl, rfl, rfl⟩
  | clearStatement => exact onStatement fun _ => ⟨rfl, rfl, rfl⟩
  | queryStatement => exact onStatement fun _ => replied _ (refused ..) rfl
  | executeStatement => exact onStatement fun _ => replied _ (refused ..) rfl
  | closeStatement => exact onStatement fun _ => ⟨rfl, rfl, rfl⟩

/-- On a closed connection it makes no difference to the calls under way, nor to the network, whether
other calls are made as well. -/
theorem agrees_without_calls {s t : Session (Client σ)} (sound : Sound connection s)
    (closed : s.state.isClosed connection = true) (agrees : s.Agrees t)
    (events : List Session.Event) :
    (s.after (driver fileExists network) connection events).Agrees
      (t.after (driver fileExists network) connection
        (events.filter fun event => !event.isCall)) := by
  induction events generalizing s t with
  | nil => exact agrees
  | cons event events ih =>
    have sound' := sound.step fileExists network event
    have closed' := (sound.keeps_step fileExists network event).1.closed closed
    cases event with
    | call request =>
      obtain ⟨-, state, underWay⟩ := answered_alone fileExists network closed request
      exact ih sound' closed' ⟨state.trans agrees.state, underWay.trans agrees.underWay⟩
    | ends place => exact ih sound' closed' (agrees.step _ _ rfl)
    | givenUp place => exact ih sound' closed' (agrees.step _ _ rfl)

/-- Once a call to close the connection has been made, whatever comes of it and even while it is under
way, each further call is answered at once and by the client alone. It puts nothing under way and
changes nothing on the network, which may be one that puts on record whatever it is asked for; all
that still happens there is the same without these calls. So nothing is sent for them, not even
another farewell. -/
theorem answered_alone_of_closed {client : Client σ} (known : client.Knows connection)
    (statements : List (Option Sql.Statement)) (before behind : List Session.Event)
    (request : Request) :
    let driver := driver fileExists network
    let session : Session (Client σ) := { state := client, statements }
    let closing := session.after driver connection (before ++ [.call .close])
    let later := closing.after driver connection behind
    let made := later.step driver connection (.call request)
    (made.1 = some (answerShut later.statement? request) ∧ made.2.state = later.state ∧
      made.2.underWay = later.underWay) ∧
    later.Agrees (closing.after driver connection (behind.filter fun event => !event.isCall)) := by
  intro driver session closing later made
  have sound (events : List Session.Event) :
      Sound connection (session.after driver connection events) :=
    Sound.after fileExists network ⟨known, List.forall_mem_nil _⟩ events
  have closed : closing.state.isClosed connection = true := by
    have closed := (sound before).closed_of_close fileExists network
    rwa [← Session.after_concat] at closed
  exact ⟨answered_alone fileExists network
      ((sound _).closed_after fileExists network closed behind) request,
    agrees_without_calls fileExists network (sound _) closed ⟨rfl, rfl⟩ behind⟩

/-- The farewell takes its time and fails. While it is under way the connection is closed again, and a
statement that was prepared before is bound and, after the end of the farewell, run. -/
theorem answered_alone_of_closed_failing :
    let network : Network ScriptedServer :=
      { ScriptedServer.network with
        disconnect := fun _ =>
          { span := fun _ => some 5, finish := fun server => (.error "Broken pipe", server) } }
    let client : Client ScriptedServer :=
      { network := { script := {}, connections := 1 }, links := [{ server := {}, session := {} }] }
    let driver := driver (fun _ => false) network
    let closing := Session.after driver 1 { state := client } ([.call (.prepare "SELECT ?")] ++
      [.call .close])
    let later := closing.after driver 1 [.call (.bindStatement 0 1 .null), .ends 0]
    client.Knows 1 ∧
      (closing.step driver 1 (.call .close)).1 = some (.done (.ok ())) ∧
      (closing.step driver 1 (.ends 0)).1 =
        some (.done (.error ⟨.connection, "Failed to close MySQL connection: Broken pipe"⟩)) ∧
      (later.step driver 1 (.call (.queryStatement 0))).1 =
        some (.rows (.error ⟨.connection, "connection is closed"⟩)) := by
  intro network client driver closing later
  have known : client.Knows 1 := rfl
  have alone (behind : List Session.Event) (request : Request) :=
    (answered_alone_of_closed (fun _ => false) network known [] [.call (.prepare "SELECT ?")] behind
      request).1.1
  exact ⟨known, alone [] .close, rfl,
    alone [.call (.bindStatement 0 1 .null), .ends 0] (.queryStatement 0)⟩

end

end SqlProbe.Mysql
