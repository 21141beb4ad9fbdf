import Mathlib.Order.Defs.Unbundled
import SqlProbe.InMemory.Server

/-!
# The connections of in-memory servers

What driver calls do to the connections of a server in memory. New ones come behind the others, and
are given their place as their number. Where connections can be closed, the server does so when it is
told to, and none is ever opened again. Every other call leaves all of them as they are.
-/

namespace SqlProbe.InMemory

/-! ### What calls leave behind -/

/-- The script and the connections are the same; what reached the server is not looked at. -/
structure Alike (s t : Server) : Prop where
  script : t.script = s.script
  connections : t.connections = s.connections

/-- The connections that were there are as they were, and those that have come behind them are
closed. -/
structure Tidy (s t : Server) : Prop where
  script : t.script = s.script
  closed : ∃ opened, t.connections = s.connections ++ opened ∧
    ∀ connection ∈ opened, connection.isClosed = true

/-- A server that can close connections is left tidy. -/
def Tidies (s t : Server) : Prop := s.script.closeFailure = none → Tidy s t

section Relations

variable {s t u : Server}

theorem Alike.trans (first : Alike s t) (second : Alike t u) : Alike s u where
  script := second.script.trans first.script
  connections := second.connections.trans first.connections

theorem Alike.tidies (alike : Alike s t) : Tidies s t := fun _ =>
  ⟨alike.script, [], alike.connections.trans (List.append_nil _).symm, nofun⟩

theorem Tidies.trans (first : Tidies s t) (second : Tidies t u) : Tidies s u := by
  intro closes
  obtain ⟨script, early, eq, tidy⟩ := first closes
  obtain ⟨script', late, eq', tidy'⟩ := second (script ▸ closes)
  refine ⟨script'.trans script, early ++ late, ?_, fun connection member => ?_⟩
  · rw [eq', eq, List.append_assoc]
  · exact (List.mem_append.mp member).elim (tidy connection) (tidy' connection)

instance : IsPreorder Server Alike where
  refl _ := ⟨rfl, rfl⟩
  trans _ _ _ := Alike.trans

instance : IsPreorder Server Tidies where
  refl _ := Alike.tidies ⟨rfl, rfl⟩
  trans _ _ _ := Tidies.trans

end Relations

namespace Server

variable {s t : Server}

/-! ### Calls on open connections -/

theorem alike_note (s : Server) (event : String) : Alike s (s.note event) := ⟨rfl, rfl⟩

theorem alike_answer (connection : Nat) (sql : String) (s : Server) :
    Alike s ((answer connection sql).finish s).2 := by
  simp only [answer, onOpen]
  split
  · exact refl s
  · exact alike_note s _

theorem alike_prepare (sql : String) (s : Server) : Alike s ((prepare sql).finish s).2 := refl s

theorem alike_runStatement (statement : Sql.Statement) (s : Server) :
    Alike s ((runStatement statement).finish s).2 := by
  simp only [runStatement]
  split
  · exact refl s
  · exact alike_note s _

theorem alike_closeStatement (s : Server) : Alike s (closeStatement.finish s).2 := refl s

theorem alike_start_ping (connection : Nat) (s : Server) : Alike s ((ping connection).start s) := by
  simp only [ping]
  split
  · exact refl s
  · exact alike_note s _

theorem alike_ping (connection : Nat) (s : Server) : Alike s ((ping connection).finish s).2 := by
  simp only [ping]
  split
  · exact alike_answer connection "SELECT 1" s
  split
  · exact refl s
  split <;> exact refl s

/-! ### Opening and closing -/

/-- How it can go when a user wants to be let in. -/
inductive Login (s : Server) : Except Error Nat × Server → Prop
  | opened {t : Server} (session : SessionInfo) (script : t.script = s.script)
      (connections : t.connections = s.connections ++ [{ session := session }]) :
      Login s (.ok (s.connections.length + 1), t)
  | refused {t : Server} (cause : Error) (alike : Alike s t) : Login s (.error cause, t)

theorem login_cases (config : Config) (s : Server) : Login s (login config s) := by
  unfold login
  dsimp only
  split
  · exact .refused _ (alike_note s _)
  split
  · exact .opened _ rfl rfl
  · exact .refused _ (alike_note s _)

/-- A connection can be closed: it is told so. -/
theorem finish_close (connection : Nat) (closes : s.script.closeFailure = none) :
    ((close connection).finish s).2 = (s.note s!"close {connection}").shut connection := by
  simp only [close, note, closes]

/-- A connection cannot be closed: that leaves all connections as they are. -/
theorem alike_failed_close (connection : Nat) {detail : String}
    (fails : s.script.closeFailure = some detail) : Alike s ((close connection).finish s).2 := by
  simp only [close, note, fails]
  exact alike_note s _

theorem connections_close (connection : Nat) (closes : s.script.closeFailure = none) :
    ((close connection).finish s).2.connections =
      s.connections.modify (connection - 1) fun found => { found with isClosed := true } := by
  rw [finish_close connection closes]
  rfl

theorem script_close (connection : Nat) (s : Server) :
    ((close connection).finish s).2.script = s.script := by
  simp only [close]
  split <;> rfl

theorem isClosed_iff {number : Nat} : s.isClosed number = true ↔
    ∃ connection, s.connections[number - 1]? = some connection ∧ connection.isClosed = true := by
  unfold isClosed
  cases s.connections[number - 1]? <;> simp

/-- A connection that is closed stays so when others come. -/
theorem isClosed_of_prefix {number : Nat} (earlier : s.connections <+: t.connections)
    (closed : s.isClosed number = true) : t.isClosed number = true := by
  obtain ⟨connection, found, closed⟩ := isClosed_iff.mp closed
  obtain ⟨more, eq⟩ := earlier
  refine isClosed_iff.mpr ⟨connection, ?_, closed⟩
  rw [← eq]
  exact List.getElem?_append_left (List.getElem?_eq_some_iff.mp found).1 |>.trans found

/-- A connection that is closed stays so when others are closed. -/
theorem isClosed_close {number : Nat} (connection : Nat) (closes : s.script.closeFailure = none)
    (closed : s.isClosed number = true) :
    ((close connection).finish s).2.isClosed number = true := by
  obtain ⟨found, at_, closed⟩ := isClosed_iff.mp closed
  rw [isClosed_iff, connections_close connection closes, List.getElem?_modify, at_]
  refine ⟨_, rfl, ?_⟩
  split
  · rfl
  · exact closed

/-- A connection that has been opened is closed when the server is told to close it. -/
theorem isClosed_close_self {number : Nat} (closes : s.script.closeFailure = none)
    (positive : 0 < number) (opened : number ≤ s.connections.length) :
    ((close number).finish s).2.isClosed number = true := by
  have bound : number - 1 < s.connections.length := by omega
  rw [isClosed_iff, connections_close number closes, List.getElem?_modify,
    List.getElem?_eq_getElem bound]
  exact ⟨_, rfl, congrArg Connection.isClosed (if_pos rfl)⟩

/-! ### Connections that are opened and closed -/

/-- The server has been told to close a connection, and left alone otherwise. -/
def Closes (connection : Nat) (s t : Server) : Prop := Alike ((close connection).finish s).2 t

theorem alike_close {connection : Nat} (alike : Alike s t) :
    Alike ((close connection).finish s).2 ((close connection).finish t).2 := by
  refine ⟨?_, ?_⟩
  · rw [script_close, script_close, alike.script]
  · simp only [close, alike.script, note]
    split
    · exact alike.connections
    · simp only [shut, alike.connections]

/-- A connection that is opened and closed again leaves the server tidy. -/
theorem tidies_of_closes {u : Server} {session : SessionInfo} (script : t.script = s.script)
    (connections : t.connections = s.connections ++ [{ session := session }])
    (closes : Closes (s.connections.length + 1) t u) : Tidies s u := by
  intro may
  refine ⟨closes.script.trans ((script_close _ t).trans script),
    [{ session := session, isClosed := true }], ?_, fun connection member => ?_⟩
  · rw [closes.connections, connections_close _ (script ▸ may), connections, Nat.add_sub_cancel,
      List.modify_eq_take_drop, List.take_left, List.drop_left]
    rfl
  · rw [List.mem_singleton.mp member]

end Server

end SqlProbe.InMemory
