import SqlProbe.Proofs.Pool.Clearing
import SqlProbe.Proofs.Pool.Completion

/-!
# Winding a pool up

When nobody borrows any more, the call that closes the pool is the only one left. It takes one
connection after the other: those that were idle it closes itself, and for those on their way out it
waits until their tasks have closed them. Each of them takes it nearer to its end. Then there is no
connection left to look after, so where the driver closes all that it is told to close, every
connection that has ever been opened is closed.
-/

namespace SqlProbe.Pool

variable {σ : Type}

/-! ### What is left -/

/-- Nobody borrows, no connection is idle, and one call at most closes connections. What is on its
way out is left to that call. -/
structure WindsUp (s : State) (call : Nat) : Prop where
  accounted : Accounted s []
  gets : s.gets = []
  loans : s.loans = []
  idle : s.idle = []
  alone : ∀ entry ∈ s.closers, entry.1 = call
  left : s.Drains call ∨ s.retiring = []
  known : ∀ connection ∈ s.closings, connection ∈ s.opened

/-- The call is done with one connection, and has closed these connections itself. -/
structure Takes (s t : State) (call : Nat) (closed : List Nat) : Prop where
  winds : WindsUp t call
  held : t.held.length + 1 = s.held.length
  closings : t.closings = s.closings
  opened : t.opened = s.opened
  closed : t.closed = closed ++ s.closed

namespace WindsUp

variable {s t : State} {call : Nat}

theorem frame (winds : WindsUp s call) (accounted : Accounted t []) (gets : t.gets = s.gets)
    (loans : t.loans = s.loans) (idle : t.idle = s.idle) (closers : t.closers = s.closers)
    (retiring : t.retiring = s.retiring) (fewer : t.closings ⊆ s.closings)
    (opened : t.opened = s.opened) : WindsUp t call where
  accounted := accounted
  gets := gets.trans winds.gets
  loans := loans.trans winds.loans
  idle := idle.trans winds.idle
  alone := closers ▸ winds.alone
  left := by
    rw [retiring]
    refine winds.left.imp_left fun ⟨closer, found, drains⟩ => ⟨closer, ?_, drains⟩
    rwa [State.closer?, closers]
  known := fun connection closing => opened ▸ winds.known connection (fewer closing)

theorem alone_setCloser (alone : ∀ entry ∈ s.closers, entry.1 = call) (new : Option Closer) :
    ∀ entry ∈ (s.setCloser call new).closers, entry.1 = call := by
  intro entry member
  rcases List.mem_append.mp member with other | last
  · exact alone entry (List.mem_of_mem_filter other)
  · obtain ⟨closer, -, rfl⟩ := Option.map_eq_some_iff.mp (Option.mem_toList.mp last)
    rfl

theorem alone_finishNext (alone : ∀ entry ∈ s.closers, entry.1 = call) (rest : List Retiring) :
    ∀ entry ∈ (s.finishNext call rest).closers, entry.1 = call := by
  cases rest with
  | nil => exact alone_setCloser alone none
  | cons head rest => exact alone_setCloser alone (some (.finishing head rest))

theorem alone_drainNext (alone : ∀ entry ∈ s.closers, entry.1 = call) (wholePool : Bool)
    (rest : List Nat) : ∀ entry ∈ (s.drainNext call wholePool rest).closers, entry.1 = call := by
  cases rest with
  | cons connection rest => exact alone_setCloser alone (some (.draining connection rest wholePool))
  | nil =>
    cases wholePool with
    | false => exact alone_setCloser alone none
    | true => exact alone_finishNext (s := { s with retiring := [] }) alone s.retiring

/-- The call goes on with what was idle, or takes over what is on its way out. -/
theorem left_drainNext {wholePool : Bool} (left : wholePool = true ∨ s.retiring = [])
    (call : Nat) (rest : List Nat) : (s.drainNext call wholePool rest).Drains call ∨
      (s.drainNext call wholePool rest).retiring = [] := by
  cases rest with
  | cons connection rest =>
    rw [State.drainNext]
    refine left.imp_left fun whole => ⟨_, closer?_setCloser_self s call _, whole⟩
  | nil =>
    cases wholePool with
    | false => exact .inr (left.resolve_left Bool.false_ne_true)
    | true =>
      obtain ⟨_, eq⟩ := finishNext_eq { s with retiring := [] } call s.retiring
      refine .inr ?_
      rw [State.drainNext, if_pos rfl, eq]

/-- A call that begins to close a pool from which nobody borrows winds it up. -/
theorem close (call : Nat) (accounted : Accounted s []) (gets : s.gets = []) (loans : s.loans = [])
    (closers : s.closers = []) (known : ∀ connection ∈ s.closings, connection ∈ s.opened) :
    WindsUp (s.step (.close call)) call ∧
      (s.step (.close call)).held.length = s.held.length ∧
      (s.step (.close call)).closings = s.closings ∧ (s.step (.close call)).opened = s.opened ∧
      (s.step (.close call)).closed = s.closed := by
  have new : s.closer? call = none := by rw [State.closer?, closers]; rfl
  have step : s.step (.close call) = { s with shut := true }.drain call true := by
    rw [State.step, new]
    rfl
  have distinct := accounted.custody.distinct
  have shut : Distinct { s with shut := true } := ⟨distinct.gets, distinct.closers⟩
  have still := transfer_drain call shut new true
  have held : ({ s with shut := true }.drain call true).held.Perm s.held :=
    List.perm_iff_count.mpr fun connection => Nat.add_left_cancel (still.held connection)
  have accounted := accounted.step (.close call) rfl
  have nobody : ∀ entry ∈ s.closers, entry.1 = call := by
    rw [closers]
    rintro entry ⟨⟩
  have alone := alone_drainNext (s := { s with shut := true, idle := [] }) nobody true
    (s.idle.map Idle.connection)
  have left := left_drainNext (s := { s with shut := true, idle := [] }) (.inl rfl) call
    (s.idle.map Idle.connection)
  obtain ⟨_, _, eq⟩ := drain_eq { s with shut := true } call true
  rw [step] at accounted ⊢
  refine ⟨⟨accounted, ?_, ?_, ?_, alone, left, ?_⟩, held.length_eq, ?_, ?_, ?_⟩ <;> rw [eq]
  · exact gets
  · exact loans
  · exact known

/-- The call takes the next of the connections that were idle. -/
theorem drained (winds : WindsUp s call) {connection : Nat} {rest : List Nat} {wholePool : Bool}
    (found : s.closer? call = some (.draining connection rest wholePool)) :
    Takes s (s.step (.drained call true)) call [connection] := by
  have step : s.step (.drained call true) =
      (s.noteClosed connection true).drainNext call wholePool rest := by
    simp only [State.step, found]
  have accounted := winds.accounted.step (.drained call true) rfl
  have account := account_drained winds.accounted.custody.distinct found true
  have held := (Custody.perm account).length_eq
  have alone := alone_drainNext (s := s.noteClosed connection true) winds.alone wholePool rest
  have left := left_drainNext (s := s.noteClosed connection true)
    (winds.left.imp_left (drainsPool_of_found found)) call rest
  obtain ⟨_, _, eq⟩ := drainNext_eq (s.noteClosed connection true) call wholePool rest
  rw [step] at accounted ⊢
  refine ⟨⟨accounted, ?_, ?_, ?_, alone, left, ?_⟩, ?_, ?_, account.opened, ?_⟩
  · exact eq ▸ winds.gets
  · exact eq ▸ winds.loans
  · exact eq ▸ winds.idle
  · exact eq ▸ winds.known
  · simpa [Nat.add_comm] using held
  · rw [eq]
    rfl
  · rw [eq]
    rfl

/-- The call goes on behind what is on its way out. -/
theorem finishNext {first : Nat} {head : Retiring} {rest : List Retiring} {event : Event}
    (closed : List Nat) (winds : WindsUp s call)
    (found : s.closer? call = some (.finishing head rest))
    (account : Account s event ({ s with closed := closed ++ s.closed }.finishNext call rest) none
      [first])
    (accounted : Accounted ({ s with closed := closed ++ s.closed }.finishNext call rest) []) :
    Takes s ({ s with closed := closed ++ s.closed }.finishNext call rest) call closed := by
  have held := (Custody.perm account).length_eq
  have alone := alone_finishNext (s := { s with closed := closed ++ s.closed }) winds.alone rest
  have nothing : s.retiring = [] :=
    winds.left.resolve_left fun drains => nomatch drainsPool_of_found found drains
  obtain ⟨_, eq⟩ := finishNext_eq { s with closed := closed ++ s.closed } call rest
  refine ⟨⟨accounted, ?_, ?_, ?_, alone, .inr ?_, ?_⟩, ?_, ?_, account.opened, ?_⟩
  · exact eq ▸ winds.gets
  · exact eq ▸ winds.loans
  · exact eq ▸ winds.idle
  · exact eq ▸ nothing
  · exact eq ▸ winds.known
  · simpa [Nat.add_comm] using held
  · rw [eq]
  · rw [eq]

/-- The call closes a connection that came back where no task could be started. -/
theorem finished (winds : WindsUp s call) {connection : Nat} {rest : List Retiring}
    (found : s.closer? call = some (.finishing (.pending connection) rest)) :
    Takes s (s.step (.drained call true)) call [connection] := by
  have step : s.step (.drained call true) = (s.noteClosed connection true).finishNext call rest := by
    simp only [State.step, found]
  have accounted := winds.accounted.step (.drained call true) rfl
  rw [step] at accounted ⊢
  exact winds.finishNext [connection] found
    (account_finished winds.accounted.custody.distinct found true) accounted

/-- The call has waited for the task that closes a connection. -/
theorem joined (winds : WindsUp s call) {connection : Nat} {rest : List Retiring}
    (found : s.closer? call = some (.finishing (.closing connection) rest))
    (ended : connection ∉ s.closings) : Takes s (s.step (.joined call)) call [] := by
  have step : s.step (.joined call) = s.finishNext call rest := by
    simp [State.step, found, ended]
  have accounted := winds.accounted.step (.joined call) rfl
  rw [step] at accounted ⊢
  exact winds.finishNext [] found
    (account_joined winds.accounted.custody.distinct found ended) accounted

theorem tick (winds : WindsUp s call) (span : Nat) : WindsUp (s.step (.tick span)) call :=
  winds.frame (winds.accounted.step (.tick span) rfl) rfl rfl rfl rfl rfl (List.Subset.refl _) rfl

/-- A task has closed a connection. -/
theorem retired (winds : WindsUp s call) {connection : Nat} (closing : connection ∈ s.closings) :
    WindsUp (s.step (.retired connection true)) call := by
  have accounted := winds.accounted.step (.retired connection true) rfl
  rw [step_retired closing true] at accounted ⊢
  exact winds.frame accounted rfl rfl rfl rfl rfl List.erase_subset rfl

/-- The pool looks after what the call has taken over. -/
theorem mem_held {closer : Closer} (found : s.closer? call = some closer) {connection : Nat}
    (taken : connection ∈ closer.connections) : connection ∈ s.held := by
  obtain ⟨before, after, eq, -⟩ := List.lookup_eq_some_iff.mp found
  refine List.mem_append_right _ (List.mem_flatMap.mpr ⟨(call, closer), ?_, taken⟩)
  rw [eq]
  exact List.mem_append_right _ List.mem_cons_self

/-- Once the call has ended, every connection that has been opened is closed. -/
theorem opened_subset_closed (winds : WindsUp s call) (ended : s.closer? call = none) :
    s.opened ⊆ s.closed := by
  have nobody : s.closers = [] := by
    refine List.eq_nil_iff_forall_not_mem.mpr fun entry member => ?_
    exact absent_of_lookup ended entry member (winds.alone entry member)
  have nothing : s.retiring = [] := by
    refine winds.left.resolve_left ?_
    rintro ⟨closer, found, -⟩
    exact absurd (ended.symm.trans found) nofun
  have held : s.held = [] := by
    simp only [State.held, winds.idle, winds.loans, winds.gets, nothing, nobody]
    rfl
  intro connection opened
  rcases winds.accounted.rest connection opened with closed | member | lost
  · exact closed
  · rw [held] at member
    contradiction
  · contradiction

end WindsUp

namespace Run

/-! ### The call at work -/

/-- A run in which a call winds the pool up, which looks after so many connections at most. Closing
any of them succeeds. -/
structure Winding (Knows : σ → List Nat → List Nat → Prop) (call items : Nat) (r : Run σ) : Prop
    extends Scheduled r where
  faithful : Faithful r.driver r.target Knows
  thorough : Thorough r.driver Knows
  knows : Knows r.server r.pool.opened r.pool.closed
  winds : WindsUp r.pool call
  few : r.pool.held.length ≤ items

/-- What is still to be done until the call has ended: it closes each connection that is left, and may
have to begin one wait for that. -/
def remaining (r : Run σ) (call : Nat) : Nat :=
  r.load + 4 * r.pool.held.length + r.owed (.closer call)

/-- The call waits for the end of a driver call, or for a task that closes a connection. -/
def Rests (r : Run σ) (call : Nat) : Prop :=
  ∃ closer, r.pool.closer? call = some closer ∧ (r.waitsFor (.closer call) = true ∨
    ∃ connection rest, closer = .finishing (.closing connection) rest ∧
      connection ∈ r.pool.closings)

/-- Every connection that has been opened is closed. -/
structure Emptied (Knows : σ → List Nat → List Nat → Prop) (r : Run σ) : Prop where
  knows : Knows r.server r.pool.opened r.pool.closed
  closed : r.pool.opened ⊆ r.pool.closed

/-- The call has gone on as far as it can. -/
structure Closes (Knows : σ → List Nat → List Nat → Prop) (call items : Nat) (r t : Run σ) :
    Prop where
  winding : Winding Knows call items t
  remaining : t.remaining call ≤ r.remaining call
  rests : t.pool.closer? call = none ∨ t.Rests call

section Closing

variable {Knows : σ → List Nat → List Nat → Prop} {call items : Nat} {r t : Run σ}

/-- The call is done with a connection. That makes up for a wait that it may have to begin for the
next one. -/
theorem Scheduled.takes (scheduled : Scheduled r) (faithful : Faithful r.driver r.target Knows)
    (thorough : Thorough r.driver Knows) (few : r.pool.held.length ≤ items) {event : Event}
    {closed : List Nat} (takes : Takes r.pool (r.pool.step event) call closed)
    (knows : Knows r.server r.pool.opened (closed ++ r.pool.closed)) :
    Winding Knows call items (r.step event) ∧
      (r.step event).pool.held.length < r.pool.held.length ∧
      (r.step event).remaining call + 3 ≤ r.remaining call := by
  have grown : (r.pool.step event).closings = r.pool.closings ++ [] := by
    rw [takes.closings, List.append_nil]
  have once : (r.pool.step event).closings.Nodup := by
    rw [takes.closings]
    exact scheduled.once
  obtain ⟨next, less⟩ := scheduled.step grown once
  obtain ⟨more, -, eq⟩ := exists_step scheduled.background event
  have held := takes.held
  rw [eq] at next less ⊢
  refine ⟨⟨next, faithful, thorough, ?_, takes.winds, ?_⟩, ?_, ?_⟩
  · change Knows r.server (r.pool.step event).opened (r.pool.step event).closed
    rw [takes.opened, takes.closed]
    exact knows
  · change (r.pool.step event).held.length ≤ items
    omega
  · exact Nat.lt_of_succ_le (Nat.le_of_eq held)
  · change load _ + 4 * (r.pool.step event).held.length + r.owed (.closer call) + 3 ≤
      load r + 4 * r.pool.held.length + r.owed (.closer call)
    rw [List.length_nil] at less
    omega

namespace Winding

/-- The call has closed a connection itself. -/
theorem closed (winding : Winding Knows call items r) {connection : Nat}
    (held : connection ∈ r.pool.held)
    (takes : Takes r.pool (r.pool.step (.drained call true)) call [connection]) :
    let t : Run σ := { r.forget [.closer call] with
      server := ((r.driver.close connection).finish r.server).2 }
    t.closedNow connection = true ∧ Winding Knows call items (t.step (.drained call true)) ∧
      (t.step (.drained call true)).pool.held.length < r.pool.held.length ∧
      (t.step (.drained call true)).remaining call ≤ r.remaining call := by
  intro t
  have opened := winding.winds.accounted.custody.known connection held
  obtain ⟨closed, knows⟩ := winding.faithful.closes winding.thorough winding.knows opened
  have kept (other : Nat) : .closing other ∉ [Wait.closer call] := by simp
  obtain ⟨forgotten, less⟩ := winding.toScheduled.forget kept
  have scheduled : Scheduled t := forgotten.same rfl forgotten.due rfl rfl fun _ => rfl
  obtain ⟨wound, fewer, nearer⟩ :=
    scheduled.takes winding.faithful winding.thorough winding.few takes knows
  have owed := owed_le t (.closer call)
  refine ⟨closed, wound, fewer, ?_⟩
  have most : t.remaining call ≤ r.load + 4 * r.pool.held.length + 3 :=
    Nat.add_le_add (Nat.add_le_add_right less _) owed
  have least : r.load + 4 * r.pool.held.length ≤ r.remaining call := Nat.le_add_right _ _
  omega

/-- The call begins to wait. -/
theorem begin (winding : Winding Knows call items r) (new : ¬r.Begun (.closer call)) (due : Nat) :
    let t : Run σ := { r with timers := r.timers ++ [⟨.closer call, some due⟩] }
    Winding Knows call items t ∧ t.remaining call ≤ r.remaining call ∧
      t.waitsFor (.closer call) = true := by
  intro t
  obtain ⟨scheduled, load⟩ := winding.toScheduled.begin (show (Wait.closer call).task = _ from rfl) due
  have waits : t.waitsFor (.closer call) = true :=
    waitsFor_iff.mpr ⟨_, List.mem_append_right _ List.mem_cons_self, rfl⟩
  refine ⟨⟨scheduled, winding.faithful, winding.thorough, winding.knows, winding.winds, winding.few⟩,
    ?_, waits⟩
  have more : t.load = r.load + 3 := load
  have now : t.owed (.closer call) = 0 := if_pos (.inl waits)
  have before : r.owed (.closer call) = 3 := if_neg new
  change t.load + 4 * r.pool.held.length + t.owed (.closer call) ≤
    r.load + 4 * r.pool.held.length + r.owed (.closer call)
  omega

/-- The call closes a connection, and goes on when that is done. -/
theorem closesFirst (winding : Winding Knows call items r) {closer : Closer} {connection : Nat}
    (found : r.pool.closer? call = some closer) (taken : connection ∈ closer.connections)
    (takes : Takes r.pool (r.pool.step (.drained call true)) call [connection])
    {goOn : Run σ → Run σ} (next : ∀ t, Winding Knows call items t →
      t.pool.held.length < r.pool.held.length → Closes Knows call items t (goOn t)) :
    Closes Knows call items r (match r.await (.closer call) (r.driver.close connection) with
      | (none, r) => r
      | (some _, r) => goOn (r.step (.drained call (r.closedNow connection)))) := by
  have awaited := awaits r (.closer call) (winding.faithful.close connection)
  generalize r.await (.closer call) (r.driver.close connection) = outcome at awaited ⊢
  cases awaited with
  | waiting since => exact ⟨winding, Nat.le_refl _, .inr ⟨closer, found, .inl since⟩⟩
  | begins due new =>
    obtain ⟨begun, less, since⟩ := winding.begin new due
    exact ⟨begun, less, .inr ⟨closer, found, .inl since⟩⟩
  | ends =>
    obtain ⟨closed, wound, fewer, less⟩ := winding.closed (WindsUp.mem_held found taken) takes
    have rest := next _ wound fewer
    dsimp only
    rw [closed]
    exact ⟨rest.winding, Nat.le_trans rest.remaining less, rest.rests⟩

/-- Each connection holds the call up once. -/
theorem closes (winding : Winding Knows call items r) {fuel : Nat}
    (enough : r.pool.held.length < fuel) :
    Closes Knows call items r (pursueCloser fuel call r) := by
  induction fuel generalizing r with
  | zero => exact absurd enough (Nat.not_lt_zero _)
  | succ fuel ih =>
    have next (t : Run σ) (winding : Winding Knows call items t)
        (fewer : t.pool.held.length < r.pool.held.length) :
        Closes Knows call items t (pursueCloser fuel call t) := ih winding (by omega)
    unfold pursueCloser
    dsimp only
    cases found : r.pool.closer? call with
    | none => exact ⟨winding, Nat.le_refl _, .inl found⟩
    | some closer =>
      cases closer with
      | draining connection rest wholePool =>
        exact winding.closesFirst found List.mem_cons_self (winding.winds.drained found) next
      | finishing head rest =>
        cases head with
        | pending connection =>
          exact winding.closesFirst found List.mem_cons_self (winding.winds.finished found) next
        | closing connection =>
          dsimp only
          split
          · next busy =>
            have waits : connection ∈ r.pool.closings := List.contains_iff_mem.mp busy
            exact ⟨winding, Nat.le_refl _, .inr ⟨_, found, .inr ⟨connection, rest, rfl, waits⟩⟩⟩
          · next ended =>
            have takes := winding.winds.joined found fun busy => ended (List.contains_iff_mem.mpr busy)
            obtain ⟨wound, fewer, less⟩ :=
              winding.toScheduled.takes winding.faithful winding.thorough winding.few takes
                winding.knows
            have rest := next _ wound fewer
            refine ⟨rest.winding, Nat.le_trans rest.remaining ?_, rest.rests⟩
            exact Nat.le_of_add_right_le less

/-! ### Between two visits of the call -/

/-- What a task that closes a connection does for the call: it may be what that waits for. -/
theorem tends (winding : Winding Knows call items r) {connection : Nat}
    (closing : connection ∈ r.pool.closings) (tends : Tends r t connection) :
    Winding Knows call items t ∧ t.remaining call < r.remaining call ∧
      (r.Rests call → .script ∈ t.ready ∨ t.Rests call) := by
  have faithful : Faithful t.driver t.target Knows := by
    rw [tends.same.1, tends.same.2.1]
    exact winding.faithful
  have thorough : Thorough t.driver Knows := by
    rw [tends.same.1]
    exact winding.thorough
  obtain ⟨waits, ended⟩ := tends.waits (.closer call) rfl
  have owed : t.owed (.closer call) ≤ r.owed (.closer call) :=
    owed_le_owed (by rw [Begun, Begun, waits, ended]; exact id)
  have load := tends.load
  rcases tends.pool with ⟨pool, server⟩ | ⟨server, pool, woken⟩
  · refine ⟨⟨tends.scheduled, faithful, thorough, ?_, ?_, ?_⟩, ?_, ?_⟩
    · rw [pool, server]
      exact winding.knows
    · rw [pool]
      exact winding.winds
    · rw [pool]
      exact winding.few
    · rw [remaining, remaining, pool]
      omega
    · rw [Rests, Rests, pool, waits]
      exact .inr
  · obtain ⟨closed, knows⟩ := winding.faithful.closes winding.thorough winding.knows
      (winding.winds.known connection closing)
    rw [← server] at closed knows
    rw [closed] at pool
    have winds := winding.winds.retired closing
    have step := pool.trans (step_retired closing true)
    have held : t.pool.held = r.pool.held := by rw [step]; rfl
    refine ⟨⟨tends.scheduled, faithful, thorough, ?_, pool ▸ winds, held ▸ winding.few⟩, ?_, ?_⟩
    · rw [step]
      exact knows
    · rw [remaining, remaining, held]
      omega
    · rintro ⟨closer, found, -⟩
      have found' : t.pool.closer? call = some closer := by
        rw [step]
        exact found
      refine .inl (woken (.closer call) (mem_woken_closer found' ?_))
      rw [step, List.length_erase_of_mem closing]
      exact Nat.pred_lt_self (List.length_pos_of_mem closing)

/-- As long as the call waits, something that it waits for will end. -/
theorem timers_ne_nil (winding : Winding Knows call items r) (rests : r.Rests call)
    (still : r.ready = []) : r.timers ≠ [] := by
  have waits {wait : Wait} (since : r.waitsFor wait = true) : r.timers ≠ [] := by
    obtain ⟨timer, member, -⟩ := waitsFor_iff.mp since
    exact List.ne_nil_of_mem member
  obtain ⟨closer, -, since | ⟨connection, -, -, closing⟩⟩ := rests
  · exact waits since
  · exact waits ((winding.closing connection closing).resolve_left (by rw [still]; exact List.not_mem_nil))

/-- Time passes. -/
theorem moves (winding : Winding Knows call items r) (moves : Moves r t) :
    Winding Knows call items t ∧ t.remaining call < r.remaining call ∧
      (r.Rests call → .script ∈ t.ready ∨ t.Rests call) := by
  obtain ⟨driver, target, -, server⟩ := moves.same
  obtain ⟨span, pool⟩ := moves.pool
  have held : t.pool.held = r.pool.held := by rw [pool]; rfl
  have owed : t.owed (.closer call) ≤ r.owed (.closer call) := owed_le_owed (moves.begun _)
  have load := moves.load
  refine ⟨⟨moves.scheduled, ?_, ?_, ?_, pool ▸ winding.winds.tick span, held ▸ winding.few⟩, ?_, ?_⟩
  · rw [driver, target]
    exact winding.faithful
  · rw [driver]
    exact winding.thorough
  · rw [pool, server]
    exact winding.knows
  · rw [remaining, remaining, held]
    omega
  · rintro ⟨closer, found, rests⟩
    refine moves.waits.imp_right fun waits => ⟨closer, ?_, rests.imp (waits _ rfl) ?_⟩
    · rw [pool]
      exact found
    · rw [pool]
      exact id

/-- Each visit of the call takes it on as far as it can get. -/
theorem progress (Knows : σ → List Nat → List Nat → Prop) (call items : Nat) : Progress
    (fun () r =>
      let r := pursueCloser (r.effort items) call r
      (if (r.pool.closer? call).isSome then .inl () else .inr (), r))
    (fun () r => Winding Knows call items r ∧ (.script ∈ r.ready ∨ r.Rests call))
    (fun () r => r.remaining call) (fun () r => Emptied Knows r) where
  polled := by
    rintro ⟨⟩ r ready ⟨winding, -⟩ first
    obtain ⟨scheduled, load⟩ := winding.toScheduled.pop first
    have popped : Winding Knows call items { r with ready } :=
      ⟨scheduled, winding.faithful, winding.thorough, winding.knows, winding.winds, winding.few⟩
    have enough : r.pool.held.length < Run.effort { r with ready } items := by
      have few := winding.few
      rw [effort]
      omega
    have less : Run.remaining { r with ready } call < r.remaining call := by
      change Run.load { r with ready } + 4 * r.pool.held.length + r.owed (.closer call) <
        r.load + 4 * r.pool.held.length + r.owed (.closer call)
      omega
    have closes := popped.closes enough
    dsimp only
    generalize pursueCloser (Run.effort { r with ready } items) call { r with ready } = t at closes ⊢
    cases found : t.pool.closer? call with
    | none =>
      have empty := closes.winding.winds.opened_subset_closed found
      exact .inr ⟨(), t, rfl, closes.winding.knows, empty⟩
    | some closer =>
      have rests := closes.rests.resolve_left (by rw [found]; exact Option.some_ne_none _)
      exact .inl ⟨(), t, rfl, ⟨closes.winding, .inr rests⟩, Nat.lt_of_le_of_lt closes.remaining less⟩
  performed := by
    rintro ⟨⟩ r task ready ⟨winding, waits⟩ first other
    obtain ⟨connection, closing, rfl⟩ :=
      (winding.tasks task (first ▸ List.mem_cons_self)).resolve_left other
    have tends := winding.toScheduled.tends first (winding.faithful.close connection)
    obtain ⟨next, less, rests⟩ := winding.tends closing tends
    exact ⟨⟨next, waits.elim (.inl ∘ tends.script) rests⟩, less⟩
  moved := by
    rintro ⟨⟩ r ⟨winding, waits⟩ still
    have rests := waits.resolve_left (by rw [still]; exact List.not_mem_nil)
    obtain ⟨time, next, moves⟩ :=
      winding.toScheduled.moves still (winding.timers_ne_nil rests still)
    obtain ⟨moved, less, rested⟩ := winding.moves moves
    exact ⟨time, next, ⟨moved, rested rests⟩, less⟩

/-- The call comes to its end. -/
theorem ends (winding : Winding Knows call items r) : ∃ t, r.drive (items + 1) (fun () r =>
      let r := pursueCloser (r.effort items) call r
      (if (r.pool.closer? call).isSome then .inl () else .inr (), r)) () = (some (), t) ∧
    Emptied Knows t := by
  obtain ⟨scheduled, load⟩ := winding.toScheduled.push
  have effort := load_add_le_effort r (items + 1)
  have few := winding.few
  have owed := owed_le r (.closer call)
  have enough : Run.remaining { r with ready := .script :: r.ready } call < r.effort (items + 1) := by
    change Run.load { r with ready := .script :: r.ready } + 4 * r.pool.held.length +
      r.owed (.closer call) < _
    omega
  obtain ⟨_, t, ended, emptied⟩ := (progress Knows call items).ends
    ⟨⟨scheduled, winding.faithful, winding.thorough, winding.knows, winding.winds, winding.few⟩,
      .inl List.mem_cons_self⟩ enough
  exact ⟨t, ended, emptied⟩

end Winding

/-- The call that closes a pool from which nobody borrows begins. -/
theorem Idles.winding (idles : Idles Knows r) (thorough : Thorough r.driver Knows) :
    Winding Knows r.nextCall (r.pool.idle.length + r.pool.retiring.length + r.pool.loans.length)
      (r.newCall.2.step (.close r.nextCall)) := by
  have sound := idles.sound
  have lending := sound.lending
  have aside := sound.aside r.server (Nat.le_succ r.nextCall) [] fun _ => False
  obtain ⟨winds, held, closings, opened, closed⟩ := WindsUp.close r.nextCall
    (sound.accounted thorough) idles.gets idles.loans lending.closers
    fun _ => lending.opened_of_closing
  have grown : (r.pool.step (.close r.nextCall)).closings = r.pool.closings ++ [] := by
    rw [closings, List.append_nil]
  obtain ⟨scheduled, -⟩ := aside.orderly.toScheduled.step grown (by rw [closings]; exact sound.once)
  obtain ⟨more, -, eq⟩ := exists_step (r := r.newCall.2) sound.background (.close r.nextCall)
  change Scheduled (r.newCall.2.step (.close r.nextCall)) at scheduled
  rw [eq] at scheduled ⊢
  refine ⟨scheduled, sound.faithful, thorough, ?_, winds, ?_⟩
  · change Knows r.server (r.pool.step _).opened (r.pool.step _).closed
    rw [opened, closed]
    exact sound.knows
  · refine Nat.le_of_eq (held.trans ?_)
    simp only [State.held, idles.gets, idles.loans, lending.closers, List.length_append,
      List.length_map]
    change _ + _ + 0 + _ + 0 = _
    omega

/-- A pool from which nobody borrows has closed every connection when closing it has ended. -/
theorem close_empties (idles : Idles Knows r) (thorough : Thorough r.driver Knows) :
    Emptied Knows r.close := by
  obtain ⟨t, ended, emptied⟩ := (idles.winding thorough).ends
  have closed : r.close = t := congrArg Prod.snd ended
  rw [closed]
  exact emptied

end Closing

end Run

end SqlProbe.Pool
