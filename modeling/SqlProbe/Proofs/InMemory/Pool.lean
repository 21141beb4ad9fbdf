import SqlProbe.Proofs.InMemory.Server
import SqlProbe.Proofs.Pool.Records
import SqlProbe.Proofs.Pool.WindingUp

/-!
# Pools of connections to in-memory servers

A server in memory and its pool agree on the connections: those that have come since the pool was
made are the ones that it has opened, and those that it counts as closed are closed. So a pool that
has closed all its connections leaves none open at the server.
-/

namespace SqlProbe.InMemory

open Pool (Faithful Gentle Reliable Thorough Timely Upholds)

/-- The connections that have come since are the ones that have been opened, and those that are said
to be closed are. The connections from before are as they were. -/
structure Tracks (start server : Server) (opened closed : List Nat) : Prop where
  script : server.script = start.script
  before : start.connections <+: server.connections
  opened : ∀ number, number ∈ opened ↔
    start.connections.length < number ∧ number ≤ server.connections.length
  closed : ∀ number ∈ closed, server.isClosed number = true

namespace Tracks

variable {start server next : Server} {opened closed : List Nat}

theorem new (start : Server) : Tracks start start [] [] where
  script := rfl
  before := List.prefix_refl _
  opened := fun _ => ⟨nofun, fun ⟨later, earlier⟩ => absurd later (Nat.not_lt.mpr earlier)⟩
  closed := nofun

theorem alike (tracks : Tracks start server opened closed) (alike : Alike server next) :
    Tracks start next opened closed where
  script := alike.script.trans tracks.script
  before := alike.connections.symm ▸ tracks.before
  opened := fun number => by rw [alike.connections, tracks.opened]
  closed := by
    intro number member
    refine Server.isClosed_of_prefix ?_ (tracks.closed number member)
    exact alike.connections ▸ List.prefix_refl _

/-- A connection has been opened. -/
theorem login (tracks : Tracks start server opened closed) {session : SessionInfo}
    (script : next.script = server.script)
    (connections : next.connections = server.connections ++ [{ session := session }]) :
    server.connections.length + 1 ∉ opened ∧
      Tracks start next ((server.connections.length + 1) :: opened) closed := by
  have least := tracks.before.length_le
  have earlier : server.connections <+: next.connections := connections ▸ List.prefix_append _ _
  have one : next.connections.length = server.connections.length + 1 := by
    rw [connections, List.length_append, List.length_singleton]
  refine ⟨fun member => ?_, script.trans tracks.script, tracks.before.trans earlier, ?_, ?_⟩
  · exact absurd ((tracks.opened _).mp member).2 (Nat.not_succ_le_self _)
  · intro number
    rw [List.mem_cons, tracks.opened, one]
    omega
  · exact fun number member => Server.isClosed_of_prefix earlier (tracks.closed number member)

/-- A connection has been closed. -/
theorem close (tracks : Tracks start server opened closed) (closes : start.script.closeFailure = none)
    {number : Nat} (among : number ∈ opened) :
    ((Server.close number).finish server).2.isClosed number = true ∧
      Tracks start ((Server.close number).finish server).2 opened (number :: closed) := by
  obtain ⟨later, earlier⟩ := (tracks.opened number).mp among
  rw [← tracks.script] at closes
  have gone := Server.isClosed_close_self closes (Nat.zero_lt_of_lt later) earlier
  have connections := Server.connections_close number closes
  refine ⟨gone, (Server.script_close number server).trans tracks.script, ?_, ?_, ?_⟩
  · refine List.prefix_iff_getElem?.mpr fun i bound => ?_
    have other : number - 1 ≠ i := by omega
    rw [connections, List.getElem?_modify, List.prefix_iff_getElem?.mp tracks.before i bound]
    simp [other]
  · intro other
    rw [tracks.opened, connections, List.length_modify]
  · intro other member
    rcases List.mem_cons.mp member with rfl | before
    · exact gone
    · exact Server.isClosed_close number closes (tracks.closed other before)

/-- An attempt to close a connection has closed it, or has left it as it was. -/
theorem attempt (tracks : Tracks start server opened closed) {number : Nat}
    (among : number ∈ opened) : Tracks start ((Server.close number).finish server).2 opened
      (if ((Server.close number).finish server).2.isClosed number then number :: closed
        else closed) := by
  cases closes : start.script.closeFailure with
  | none =>
    obtain ⟨gone, next⟩ := tracks.close closes among
    rw [if_pos gone]
    exact next
  | some detail =>
    have next := tracks.alike (Server.alike_failed_close number (tracks.script ▸ closes))
    split
    · next gone =>
      exact ⟨next.script, next.before, next.opened, List.forall_mem_cons.mpr ⟨gone, next.closed⟩⟩
    · exact next

/-- Once all that has been opened is closed, the server is tidy. -/
theorem tidy (tracks : Tracks start server opened closed) (all : opened ⊆ closed) :
    Tidy start server := by
  obtain ⟨later, eq⟩ := tracks.before
  refine ⟨tracks.script, later, eq.symm, fun connection member => ?_⟩
  obtain ⟨i, bound, rfl⟩ := List.getElem_of_mem member
  have length : server.connections.length = start.connections.length + later.length := by
    rw [← eq, List.length_append]
  have among : start.connections.length + i + 1 ∈ opened := (tracks.opened _).mpr (by omega)
  obtain ⟨found, at_, closed⟩ := Server.isClosed_iff.mp (tracks.closed _ (all among))
  rw [Nat.add_sub_cancel, ← eq, List.getElem?_append_right (Nat.le_add_right _ _),
    Nat.add_sub_cancel_left, List.getElem?_eq_getElem bound] at at_
  rw [Option.some.inj at_]
  exact closed

end Tracks

variable {start : Server}

/-- A pool can rely on a server. -/
theorem faithful (script : Script) (target : Config) :
    Faithful (driver script) target (Tracks start) where
  connect := ⟨fun _ => rfl, rfl, fun _ => Option.some_ne_none _⟩
  close := fun _ => ⟨fun _ => rfl, rfl, fun _ => Option.some_ne_none _⟩
  connected := by
    intro server opened closed connection tracks ok
    have login := Server.login_cases target server
    change (Server.login target server).1 = _ at ok
    change _ ∧ Tracks start (Server.login target server).2 _ _
    generalize Server.login target server = outcome at login ok ⊢
    cases login with
    | opened session script connections =>
      cases ok
      exact tracks.login script connections
    | refused cause alike => contradiction
  refused := by
    intro server opened closed cause tracks failed
    have login := Server.login_cases target server
    change (Server.login target server).1 = _ at failed
    change Tracks start (Server.login target server).2 _ _
    generalize Server.login target server = outcome at login failed ⊢
    cases login with
    | opened session script connections => contradiction
    | refused cause alike => exact tracks.alike alike
  closed := fun _ _ _ _ tracks among => tracks.attempt among

/-- A server that can close connections does so. -/
theorem thorough (script : Script) (closes : start.script.closeFailure = none) :
    Thorough (driver script) (Tracks start) :=
  fun _ _ _ _ tracks among => (tracks.close closes among).1

/-- Queries leave all connections alone. -/
theorem gentle_query (script : Script) (sql : String) (params : List Value) :
    Gentle (fun connection => (driver script).query connection sql params) (Tracks start) where
  timely := fun _ => ⟨fun _ => rfl, rfl, fun _ => Option.some_ne_none _⟩
  kept := fun server _ _ connection tracks => tracks.alike (Server.alike_answer connection sql server)

/-! ### Servers keep to their scripts -/

/-- The error of connections that cannot be closed. -/
def Refusal (script : Script) (cause : Error) : Prop :=
  ∃ detail, script.closeFailure = some detail ∧ cause = ⟨.connection, detail⟩

/-- The server follows the script. -/
def Follows (script : Script) (server : Server) : Prop := server.script = script

theorem follows_of_alike {script : Script} {s t : Server} (follows : Follows script s)
    (alike : Alike s t) : Follows script t :=
  alike.script.trans follows

theorem upholds_query (script : Script) (connection : Nat) (sql : String) (params : List Value) :
    Upholds (Follows script) ((driver script).query connection sql params) where
  timely := ⟨fun _ => rfl, rfl, fun _ => Option.some_ne_none _⟩
  kept := fun server follows => follows_of_alike follows (Server.alike_answer connection sql server)

/-- A server whose connections cannot be closed always refuses in the same way. -/
theorem reliable (script : Script) (target : Config) :
    Reliable (driver script) target (Follows script) (Refusal script) where
  connect := {
    timely := ⟨fun _ => rfl, rfl, fun _ => Option.some_ne_none _⟩
    kept := by
      intro server follows
      have login := Server.login_cases target server
      change Follows script (Server.login target server).2
      generalize Server.login target server = outcome at login ⊢
      cases login with
      | opened session same connections => exact same.trans follows
      | refused cause alike => exact follows_of_alike follows alike }
  close := fun connection => {
    timely := ⟨fun _ => rfl, rfl, fun _ => Option.some_ne_none _⟩
    kept := fun server follows => (Server.script_close connection server).trans follows }
  refuses := by
    rintro connection server cause rfl failed
    change ((Server.close connection).finish server).1 = _ at failed
    simp only [Server.close, Server.note] at failed
    cases fails : server.script.closeFailure with
    | none =>
      rw [fails] at failed
      contradiction
    | some detail =>
      rw [fails] at failed
      exact ⟨detail, fails, (Except.error.inj failed).symm⟩

end SqlProbe.InMemory
