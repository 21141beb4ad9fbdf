import SqlProbe.Probe.Run
import SqlProbe.Proofs.InMemory.Pool
import SqlProbe.Proofs.Probe.Work

/-!
# Probes close what they open

Every probe opens its own connections, and has closed all of them when its report is made, however
the server behaves, as long as connections can be closed. All but one open connections one at a time,
and whatever fails while one is open, it is closed at last. The probe of the pool lets workers borrow
connections side by side; all workers come to their end, and then the pool is wound up.
-/

namespace SqlProbe.Probe

open InMemory (Alike Server Tidies)

variable {σ α : Type} (script : InMemory.Script)

/-! ### Work with one connection -/

theorem alike_query (connection : Nat) (sql : String) :
    Relates Alike (await ((InMemory.driver script).query connection sql [])) :=
  .await (Server.alike_answer connection sql)

theorem alike_readValue (connection : Nat) (sql column label : String) :
    Relates Alike (readValue (InMemory.driver script) connection sql column label) := by
  refine (alike_query script connection sql).bind fun outcome => ?_
  cases outcome with
  | error cause => exact .report _
  | ok result =>
    dsimp only
    split
    · exact .report _
    · exact .pure ()

theorem alike_basicWork (connection : Nat) :
    Relates Alike (basicWork (InMemory.driver script) connection) := by
  refine (Relates.report _).bind fun _ => (Relates.look _).bind fun server => ?_
  refine (Relates.report _).bind fun _ => .forM fun ⟨sql, column, label⟩ _ => ?_
  exact alike_readValue script connection sql column label

theorem alike_readRow (connection : Nat) (sql : String) :
    Relates Alike (readRow (InMemory.driver script) connection sql) :=
  (alike_query script connection sql).bind fun _ => .reportOutcome _ _ _

theorem alike_listDatabases (connection : Nat) :
    Relates Alike (listDatabases (InMemory.driver script) connection) := by
  refine (alike_query script connection _).bind fun outcome => ?_
  cases outcome with
  | error cause => exact .report _
  | ok result => exact (Relates.report _).bind fun _ => .forM fun _ _ => .report _

theorem alike_batchWork (connection : Nat) :
    Relates Alike (batchWork (InMemory.driver script) connection) :=
  (Relates.forM fun sql _ => alike_readRow script connection sql).bind fun _ =>
    alike_listDatabases script connection

theorem alike_runBound (connection : Nat) (statement : Sql.Statement) :
    Relates Alike (runBound (InMemory.driver script) connection statement) := by
  refine (Relates.await fun server => refl server).bind fun bound => ?_
  cases bound with
  | error cause => exact .report _
  | ok bound =>
    exact (Relates.await (Server.alike_runStatement bound)).bind fun _ => .reportOutcome _ _ _

/-- Whether the statement can be bound, run and closed or not, the connections are left alone. -/
theorem alike_preparedWork (connection : Nat) :
    Relates Alike (preparedWork (InMemory.driver script) connection) := by
  refine (Relates.await (Server.alike_prepare preparedSql)).bind fun outcome => ?_
  cases outcome with
  | error cause => exact .report _
  | ok statement =>
    refine (Relates.report _).bind fun _ => (alike_runBound script connection statement).bind fun _ => ?_
    refine (Relates.await Server.alike_closeStatement).bind fun closed => ?_
    cases closed with
    | error cause => exact .report _
    | ok => exact .pure ()

/-- A ping that fails or never comes back leaves its connection open. -/
theorem alike_ping (connection : Nat) (limit : Option Nat) (s : Server) :
    Alike s (Health.ping (InMemory.driver script) connection limit s).2 := by
  have started : Alike s (((InMemory.driver script).ping connection).start s) :=
    Server.alike_start_ping connection s
  have finished (t : Server) : Alike t (((InMemory.driver script).ping connection).finish t).2 :=
    Server.alike_ping connection t
  have exchanged : ((InMemory.driver script).ping connection).atOnce s = none := rfl
  unfold Health.ping
  split
  · exact refl s
  dsimp only
  rw [exchanged]
  dsimp only
  split
  · exact started
  · exact started
  split
  · exact started
  · exact started.trans (finished _)

theorem alike_pingWork (context : Context) (connection : Nat) :
    Relates Alike (pingWork (InMemory.driver script) context connection) := by
  refine (Relates.look _).bind fun server => (Relates.report _).bind fun _ => ?_
  refine (Relates.within (alike_ping script connection _)).bind fun outcome => ?_
  cases outcome with
  | ok nanos => exact .report _
  | error cause => exact .report _

theorem alike_queryWork (sql : String) (connection : Nat) :
    Relates Alike (queryWork (InMemory.driver script) sql connection) := by
  refine (alike_query script connection sql).bind fun outcome => ?_
  cases outcome with
  | error cause => exact (Relates.report _).bind fun _ => .pure none
  | ok result =>
    dsimp only
    split
    · exact (Relates.report _).bind fun _ => .pure none
    · exact (Relates.report _).bind fun _ => .pure _

theorem alike_sessionWork (connection : Nat) :
    Relates Alike (sessionWork (InMemory.driver script) connection) :=
  (Relates.look _).bind fun _ => .forM fun _ _ => .report _

/-! ### Connections that are opened and closed -/

/-- What is done with a new connection ends with closing it; without one nothing is done. -/
theorem opens (config : Config) {next : Except Error Nat → WorkM Server α}
    (refused : ∀ cause, Relates Alike (next (.error cause)))
    (opened : ∀ connection, Relates (Server.Closes connection) (next (.ok connection))) :
    Relates Tidies (await ((InMemory.driver script).connect config) >>= next) := by
  intro before
  have login := Server.login_cases config before.state
  change Tidies before.state (next (Server.login config before.state).1
    { before with state := (Server.login config before.state).2 }).2.state
  generalize Server.login config before.state = outcome at login ⊢
  cases login with
  | opened session same connections =>
    exact Server.tidies_of_closes same connections (opened _ { before with state := _ })
  | refused cause alike => exact (alike.trans (refused cause { before with state := _ })).tidies

theorem closes_await (connection : Nat) :
    Relates (Server.Closes connection) (await ((InMemory.driver script).close connection)) :=
  .await fun s => refl ((Server.close connection).finish s).2

theorem closes_close (connection : Nat) :
    Relates (Server.Closes connection) (close (InMemory.driver script) connection) :=
  (closes_await script connection).andThen (fun _ => .reportOutcome _ _ _) Alike.trans

/-- Work that leaves the connections alone comes before the closing. -/
theorem closes_after {β : Type} {connection : Nat} {work : WorkM Server β} {next : β → WorkM Server α}
    (first : Relates Alike work)
    (rest : ∀ value, Relates (Server.Closes connection) (next value)) :
    Relates (Server.Closes connection) (work >>= next) :=
  first.andThen rest fun before closes => (Server.alike_close before).trans closes

theorem withConnection_tidies (config : Config) {work : Nat → WorkM Server Unit}
    (leaves : ∀ connection, Relates Alike (work connection)) :
    Relates Tidies (withConnection (InMemory.driver script) config work) := by
  rw [withConnection, connect, bind_assoc]
  refine opens script config (fun cause => ?_) fun connection => ?_ <;> dsimp only <;> rw [bind_assoc]
  · refine (Relates.report _).bind fun _ => ?_
    rw [pure_bind]
    exact .pure ()
  · refine closes_after (.report _) fun _ => ?_
    rw [pure_bind]
    exact closes_after (leaves connection) fun _ => closes_close script connection

theorem queryProbe_tidies (context : Context) (sql : String) :
    Relates Tidies (queryProbe (InMemory.driver script) context sql) := by
  rw [queryProbe, connect, bind_assoc]
  refine opens script context.base (fun cause => ?_) fun connection => ?_ <;> dsimp only <;>
    rw [bind_assoc]
  · refine (Relates.report _).bind fun _ => ?_
    rw [pure_bind]
    exact .pure none
  · refine closes_after (.report _) fun _ => ?_
    rw [pure_bind]
    refine closes_after (alike_queryWork script sql connection) fun table => ?_
    exact (closes_close script connection).andThen (fun _ => .pure table) Alike.trans

theorem tryAccount_tidies (base : Config) (account : Account) :
    Relates Tidies (tryAccount (InMemory.driver script) base account) := by
  refine opens script _ (fun cause => .report _) fun connection => ?_
  refine closes_after (.report _) fun _ => (closes_await script connection).andThen (fun closed => ?_)
    Alike.trans
  cases closed with
  | error cause => exact .report _
  | ok => exact .pure ()

theorem propertiesWork_tidies (context : Context) :
    Relates Tidies (propertiesWork (InMemory.driver script) context) := by
  unfold propertiesWork
  dsimp only
  split
  · exact (Relates.report _).bind fun _ => withConnection_tidies script _ (alike_sessionWork script)
  · exact .report _

/-! ### The pool -/

/-- All workers come to their end, and the call that closes the pool closes all of its connections. -/
theorem poolSteps_empties {driver : Driver σ} {Knows : σ → List Nat → List Nat → Prop}
    {context : Context} (config : Pool.Config) {state : σ}
    (faithful : Pool.Faithful driver context.base Knows) (thorough : Pool.Thorough driver Knows)
    (gentle : Pool.Gentle (fun connection => driver.query connection workerSql []) Knows)
    (knows : Knows state [] []) : ∃ opened closed,
      Knows (poolSteps driver context config state).2 opened closed ∧ opened ⊆ closed := by
  have idles := Pool.Run.Idles.new config faithful knows
  obtain ⟨outcomes, t, ended, idle, same⟩ :=
    Pool.Run.workers_end gentle context.pool.workers idles fun _ member => nomatch member
  have emptied := Pool.Run.close_empties idle (same ▸ thorough)
  refine ⟨t.close.pool.opened, t.close.pool.closed, ?_, emptied.closed⟩
  simp only [poolSteps, ended]
  exact emptied.knows

theorem poolSteps_tidies (context : Context) (config : Pool.Config) (s : Server) :
    Tidies s (poolSteps (InMemory.driver script) context config s).2 := by
  intro closes
  obtain ⟨opened, closed, tracks, all⟩ := poolSteps_empties config
    (InMemory.faithful script context.base) (InMemory.thorough script closes)
    (InMemory.gentle_query script workerSql []) (.new s)
  exact tracks.tidy all

theorem poolWork_tidies (context : Context) :
    Relates Tidies (poolWork (InMemory.driver script) context) := by
  unfold poolWork
  split
  · next config _ =>
    refine (Relates.report _).bind fun _ => ?_
    exact (Relates.within (poolSteps_tidies script context config)).bind fun steps =>
      .forM fun _ _ => .report _
  · exact .report _

/-! ### All probes -/

theorem work_tidies (context : Context) (probe : Probe) :
    Relates Tidies (work (InMemory.driver script) context probe) := by
  cases probe with
  | basic => exact (withConnection_tidies script _ (alike_basicWork script)).bind fun _ => .pure none
  | users =>
    exact (Relates.forM fun account _ => tryAccount_tidies script _ account).bind
      fun _ => .pure none
  | prepared =>
    exact (withConnection_tidies script _ (alike_preparedWork script)).bind fun _ => .pure none
  | properties => exact (propertiesWork_tidies script context).bind fun _ => .pure none
  | ping =>
    exact (withConnection_tidies script _ (alike_pingWork script context)).bind fun _ => .pure none
  | batch => exact (withConnection_tidies script _ (alike_batchWork script)).bind fun _ => .pure none
  | pool => exact (poolWork_tidies script context).bind fun _ => .pure none
  | query sql => exact queryProbe_tidies script context sql

/-- When a probe has been run on a server that can close connections, every connection that has been
opened for it is closed, and all others are as they were. -/
theorem run_closes_all (context : Context) (probe : Probe) (server : Server)
    (closes : server.script.closeFailure = none) :
    ∃ opened, (run (InMemory.driver script) context probe server).2.connections =
        server.connections ++ opened ∧ ∀ connection ∈ opened, connection.isClosed = true :=
  (work_tidies script context probe { state := server } closes).closed

/-- Three workers share two connections, of which one may be idle. -/
theorem run_closes_all_pool :
    let server : Server := { script := { connectDelay := 20, queryDelay := 50, closeDelay := 10 } }
    let context : Context := {
      base := .mysql "localhost" 4000 "test" "root", users := [], extra := .empty,
      pool := { maxOpen := 2, maxIdle := 1, workers := 3 }, health := {} }
    server.script.closeFailure = none ∧
      ∃ opened, (run (InMemory.driver server.script) context .pool server).2.connections =
          server.connections ++ opened ∧ ∀ connection ∈ opened, connection.isClosed = true := by
  intro server context
  exact ⟨rfl, run_closes_all server.script context .pool server rfl⟩

end SqlProbe.Probe
