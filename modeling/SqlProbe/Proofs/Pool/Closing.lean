import SqlProbe.Proofs.Pool.Clearing
import SqlProbe.Proofs.Pool.Shut

/-!
# What closing a pool closes

A call that closes the pool takes the idle connections away, closes one after the other, and then
takes over whatever is on its way out by then. While it is at the idle ones, another closing of the
same pool may take that over before it, and then only the other one waits for it. What comes back
where no task can be started is closed only if some closing of the pool has yet to look for it.
-/

namespace SqlProbe.Pool

/-! ### Connections that are handed over -/

/-- A connection is closed, is being closed by a task of its own, or is in the hands of a closing
call, or will be. -/
inductive HandedOver (s : State) (connection : Nat) : Prop
  | closed (closed : connection ∈ s.closed)
  | task (closing : connection ∈ s.closings)
  | call (call : Nat) (due : Due s call connection)

/-- A connection that has been handed over stays so until it is closed. -/
theorem HandedOver.after {s : State} {connection : Nat} (handed : HandedOver s connection)
    (watched : Watched s) {events : List Event} (close : ∀ event ∈ events, event.closes = true) :
    HandedOver (s.after events) connection := by
  have follows := follows_after (s := s) close
  cases handed with
  | closed closed => exact .closed (follows.closed connection closed)
  | task closing => exact (follows.closings connection closing).elim .task .closed
  | call call due => exact .call call ((clears_after watched close).due due)

theorem untouched_step_giveBack (s : State) (connection : Nat) (outside : Bool) :
    Untouched s (s.step (.giveBack connection outside)) := by
  simp only [State.step, State.giveBack]
  split
  · exact ⟨rfl, rfl, rfl, rfl, rfl⟩
  · exact untouched_giveBack s _ _ _ outside

/-- A connection that comes back to a pool that has been told to close is handed over if a task can
be started there, or if some closing of the pool has yet to look for it. -/
theorem Shut.handedOver_giveBack {s : State} (shut : Shut s) {connection : Nat} {outside : Bool}
    (lent : connection ∈ s.loans.map Loan.connection)
    (awaited : outside = true → ∃ call, s.Drains call) :
    HandedOver (s.step (.giveBack connection outside)) connection := by
  rcases shut.giveBack outside lent with closed | ⟨_, closing⟩ | ⟨inside, pending⟩
  · exact .closed closed
  · exact .task closing
  · obtain ⟨call, closer, found, drains⟩ := awaited inside
    refine .call call (.awaited (List.mem_map_of_mem pending) ⟨closer, ?_, drains⟩)
    rwa [State.closer?, (untouched_step_giveBack s connection outside).closers]

/-! ### Connections that are not handed over -/

/-- The pool is told to close. -/
def Event.shuts : Event → Bool
  | close _ => true
  | _ => false

/-- What takes over no connection that came back from outside, and begins no closing of the pool. -/
structure Strands (s t : State) : Prop where
  pending : ∀ connection, .pending connection ∈ s.retiring → .pending connection ∈ t.retiring
  past : ∀ call, t.Drains call → s.Drains call

namespace Strands

variable {s t u : State} {call : Nat}

theorem trans (first : Strands s t) (second : Strands t u) : Strands s u where
  pending := fun connection member => second.pending connection (first.pending connection member)
  past := fun call drains => first.past call (second.past call drains)

theorem kept (closers : t.closers = s.closers)
    (pending : ∀ connection, .pending connection ∈ s.retiring → .pending connection ∈ t.retiring) :
    Strands s t where
  pending := pending
  past := by
    rintro call ⟨closer, found, drains⟩
    exact ⟨closer, by rwa [State.closer?, closers] at found, drains⟩

theorem same (closers : t.closers = s.closers) (retiring : t.retiring = s.retiring) : Strands s t :=
  .kept closers fun _ member => retiring ▸ member

theorem undisturbed (undisturbed : Undisturbed s t) : Strands s t :=
  .same undisturbed.closers undisturbed.retiring

theorem noteClosed (s : State) (connection : Nat) (closed : Bool) :
    Strands s (s.noteClosed connection closed) := by
  rw [noteClosed_eq]
  exact .same rfl rfl

theorem setCloser {new : Option Closer} (past : ∀ closer ∈ new, closer.drainsPool = false) :
    Strands s (s.setCloser call new) where
  pending := fun _ member => member
  past := by
    rintro other ⟨closer, found, drains⟩
    by_cases same : other = call
    · subst same
      rw [closer?_setCloser_self] at found
      rw [past closer found] at drains
      contradiction
    · rw [closer?_setCloser_of_ne same] at found
      exact ⟨closer, found, drains⟩

theorem finishNext (rest : List Retiring) : Strands s (s.finishNext call rest) := by
  cases rest with
  | nil => exact setCloser nofun
  | cons head rest => exact setCloser fun _ now => Option.some.inj now ▸ rfl

theorem drainNext (rest : List Nat) : Strands s (s.drainNext call false rest) := by
  cases rest with
  | nil => exact setCloser nofun
  | cons head rest => exact setCloser fun _ now => Option.some.inj now ▸ rfl

theorem retire (s : State) (connection : Nat) (outside : Bool) :
    Strands s (s.retire connection outside) := by
  have unfinished (last : Retiring) (other : Nat) (member : .pending other ∈ s.retiring) :
      .pending other ∈ s.retiring.filter (Retiring.isUnfinished s.closings) ++ [last] :=
    List.mem_append_left _ (List.mem_filter.mpr ⟨member, rfl⟩)
  cases outside <;> exact .kept rfl (unfinished _)

theorem giveBack (s : State) (loans : List Loan) (active : Nat) (loan : Loan) (outside : Bool) :
    Strands s ({ s with loans, active }.takeBack loan outside).release := by
  rcases giveBack_cases s loans active loan outside with still | ⟨t, before, after⟩
  · exact .undisturbed still
  · exact (Strands.undisturbed before).trans ((retire t loan.connection outside).trans
      (.undisturbed after))

end Strands

theorem strands_step {s : State} (past : ∀ call, ¬s.Drains call) (event : Event)
    (untold : event.shuts = false) : Strands s (s.step event) := by
  have effect := step_effect s event
  generalize s.step event = t at effect ⊢
  cases effect with
  | nothing => exact .same rfl rfl
  | tick => exact .same rfl rfl
  | lose => exact .noteClosed s _ true
  | get => exact .undisturbed (undisturbed_startGet s _)
  | turnedAway => exact .undisturbed (undisturbed_fail s _ _)
  | turn => exact .undisturbed (undisturbed_examine s _)
  | usable => exact .undisturbed (undisturbed_lend s _ _)
  | unusable => exact .undisturbed (undisturbed_setGet s _ _)
  | discarded closed =>
    exact (Strands.noteClosed s _ closed).trans (.undisturbed (undisturbed_examine _ _))
  | opened => exact .same rfl rfl
  | refused => exact .undisturbed (undisturbed_fail s _ _)
  | expired => exact .undisturbed (undisturbed_fail s _ _)
  | cancelled => exact .undisturbed (undisturbed_leave s _)
  | givenBack => exact .giveBack s _ _ _ _
  | @retired connection closed =>
    have ended : Strands s { s with closings := s.closings.erase connection } := .same rfl rfl
    exact ended.trans (.noteClosed _ connection closed)
  | warmUp =>
    obtain ⟨_, eq⟩ := warm_eq s _
    rw [eq]
    exact .same rfl rfl
  | @warmed call connection =>
    obtain ⟨_, eq⟩ := warm_eq ((s.noteOpened connection).putWarm connection) call
    rw [eq]
    exact .same rfl rfl
  | warmFailed => exact .same rfl rfl
  | closeIdle =>
    have cleared : Strands s { s with idle := [] } := .same rfl rfl
    exact cleared.trans (.drainNext _)
  | close => contradiction
  | @drained call connection rest wholePool closed found =>
    cases wholePool with
    | true =>
      -- Only such a call takes anything over.
      exact absurd ⟨_, found, rfl⟩ (past call)
    | false => exact (Strands.noteClosed s connection closed).trans (.drainNext rest)
  | @finished call connection rest closed =>
    exact (Strands.noteClosed s connection closed).trans (.finishNext rest)
  | joined => exact .finishNext _

/-- A connection that came back from outside when no closing of the pool had yet to look for it is
not taken over by anybody before the pool is told to close again. -/
theorem pending_after {s : State} (past : ∀ call, ¬s.Drains call) {connection : Nat}
    (pending : .pending connection ∈ s.retiring) {events : List Event}
    (untold : ∀ event ∈ events, event.shuts = false) :
    .pending connection ∈ (s.after events).retiring := by
  refine (after_keeps_each (fun t => (∀ call, ¬t.Drains call) ∧ .pending connection ∈ t.retiring)
    ?_ ⟨past, pending⟩ untold).2
  rintro t event untold ⟨past, pending⟩
  have strands := strands_step past event untold
  exact ⟨fun call drains => past call (strands.past call drains), strands.pending connection pending⟩

theorem Shut.pending_giveBack {s : State} (shut : Shut s) {connection : Nat}
    (lent : connection ∈ s.loans.map Loan.connection) (unclosed : connection ∉ s.closed)
    (past : ∀ call, ¬s.Drains call) {events : List Event}
    (untold : ∀ event ∈ events, event.shuts = false) :
    .pending connection ∈ ((s.step (.giveBack connection true)).after events).retiring := by
  have strands := strands_step past (.giveBack connection true) rfl
  refine pending_after (fun call drains => past call (strands.past call drains)) ?_ untold
  rcases shut.giveBack true lent with closed | ⟨inside, _⟩ | ⟨_, pending⟩
  · rw [(untouched_step_giveBack s connection true).closed] at closed
    contradiction
  · contradiction
  · exact pending

/-! ### The call -/

section Call

variable {s : State} {call connection : Nat}

/-- The call takes over what is on its way out, or will once it has closed what was idle. -/
theorem due_drainNext (rest : List Nat)
    (departs : connection ∈ s.retiring.map Retiring.connection) :
    Due (s.drainNext call true rest) call connection := by
  cases rest with
  | cons first rest => exact .awaited departs ⟨_, closer?_setCloser_self _ _ _, rfl⟩
  | nil =>
    refine .taken call ?_
    change _ ∈ connectionsOf (({ s with retiring := [] }.finishNext call s.retiring).closer? call)
    rwa [connectionsOf_finishNext]

theorem closed_of_due (ended : s.closer? call = none) (due : Due s call connection) :
    connection ∈ s.closed ∨ ∃ other, connection ∈ connectionsOf (s.closer? other) := by
  cases due with
  | closed closed => exact .inl closed
  | taken other taken => exact .inr ⟨other, taken⟩
  | awaited _ drains =>
    obtain ⟨closer, found, _⟩ := drains
    rw [ended] at found
    contradiction

end Call

/-- A pool was told to close, and a state some events later. -/
structure ShutDown (s : State) (call : Nat) (events : List Event) (t : State) : Prop where
  /-- Nothing is idle any more, whatever has come back since. -/
  idle : t.idle = []
  /-- The call can come to its end. -/
  ends : t.Ends call
  /-- When the call has ended, what was idle is closed. -/
  idleClosed : t.closer? call = none → ∀ entry ∈ s.idle, entry.connection ∈ t.closed
  /-- When the call has ended, what was on its way out is closed, unless another closing call has
  taken it over and is not done with it. -/
  retiringClosed : t.closer? call = none → ∀ entry ∈ s.retiring, entry.connection ∈ t.closed ∨
    ∃ other, entry.connection ∈ connectionsOf (t.closer? other)
  /-- Whoever comes is turned away. -/
  newcomers : ∀ borrower, t.get? borrower = none →
    TurnedAway (t.step (.get borrower)) borrower
  /-- Whoever waited for a slot and has not gone away has been turned away, or has not had its turn,
  in which it will be. -/
  queue : ∀ borrower, s.Queues borrower → .cancel borrower ∉ events → TurnedAway t borrower ∨
    .resume borrower ∉ events ∧ TurnedAway (t.step (.resume borrower)) borrower
  /-- What comes back is handed over, unless that happens outside and no closing of the pool has yet
  to look for it. -/
  returns : ∀ connection outside, connection ∈ t.loans.map Loan.connection →
    (outside = true → ∃ other, t.Drains other) →
    HandedOver (t.step (.giveBack connection outside)) connection
  /-- Otherwise it waits until the pool is told to close once more. -/
  strays : ∀ connection later, connection ∈ t.loans.map Loan.connection → connection ∉ t.closed →
    (∀ other, ¬t.Drains other) → (∀ event ∈ later, event.shuts = false) →
    .pending connection ∈ ((t.step (.giveBack connection true)).after later).retiring

/-- A pool in any state that can arise, in which nothing is opened in advance, is told to close. -/
theorem close_complete (config : Config) (ownCheck : Bool) {before events : List Event} {call : Nat}
    (close : ∀ event ∈ before ++ events, event.closes = true)
    (untold : ∀ event ∈ events, event.warms = false)
    (quiet : ((State.ofConfig config ownCheck).after before).warmUps = [])
    (new : ((State.ofConfig config ownCheck).after before).closer? call = none) :
    ShutDown ((State.ofConfig config ownCheck).after before) call events
      ((((State.ofConfig config ownCheck).after before).step (.close call)).after events) := by
  have watched : Watched ((State.ofConfig config ownCheck).after before) :=
    (follows_after fun event member => close event (List.mem_append_left _ member)).watched
      (Accounted.ofConfig config ownCheck).watched
  have close' : ∀ event ∈ events, event.closes = true :=
    fun event member => close event (List.mem_append_right _ member)
  generalize (State.ofConfig config ownCheck).after before = s at quiet new watched ⊢
  have told : s.step (.close call) = { s with shut := true }.drain call true := by
    simp [State.step, new]
  have shut := Shut.close quiet new
  have clears := clears_after ((follows_step s (.close call) rfl).watched watched) close'
  have later := shut.after untold
  refine ⟨later.idle, ends _ call, ?_, ?_, fun _ => later.turnedAway_get, ?_,
    fun _ _ => later.handedOver_giveBack,
    fun _ _ lent unclosed past => later.pending_giveBack lent unclosed past⟩
  · -- What was idle is on the call's own list from the start.
    intro ended entry member
    have taken : entry.connection ∈ connectionsOf ((s.step (.close call)).closer? call) := by
      rw [told]
      exact mem_connectionsOf_drainNext _ call true (List.mem_map_of_mem member)
    refine (clears.taken call _ taken).resolve_left ?_
    rw [ended]
    exact List.not_mem_nil
  · -- What was on its way out will be on its list, unless another call is faster.
    intro ended entry member
    have due : Due (s.step (.close call)) call entry.connection := by
      rw [told]
      exact due_drainNext (s := { s with shut := true, idle := [] }) _ (List.mem_map_of_mem member)
    exact closed_of_due ended (clears.due due)
  · intro borrower queues stays
    have queues' : (s.step (.close call)).Queues borrower := by
      obtain ⟨_, _, eq⟩ := drain_eq { s with shut := true } call true
      rw [told, eq]
      exact queues
    rcases shut.after_queues untold queues' stays with turned | ⟨waits, never⟩
    · exact .inl turned
    · exact .inr ⟨never, later.turnedAway_resume waits⟩

/-- Three connections are borrowed and a fourth borrower waits. Two come back, of which one stays
idle and the waiting borrower gets the slot of the other, and the pool is told to close. The last
connection comes back before the call has ended. -/
theorem close_complete_while_borrowed :
    let before : List Event := [.get 0, .get 1, .get 2, .get 3, .opened 0 1, .opened 1 2,
      .opened 2 3, .giveBack 1 false, .giveBack 2 false]
    let events : List Event := [.drained 9 true, .resume 3, .giveBack 3 false, .retired 2 true,
      .joined 9]
    let s := (State.ofConfig { maxSize := 3, maxIdle := 1 } false).after before
    let t := (s.step (.close 9)).after events
    (∀ event ∈ before ++ events, event.closes = true) ∧ (∀ event ∈ events, event.warms = false) ∧
      s.warmUps = [] ∧ s.closer? 9 = none ∧ s.Queues 3 ∧ t.closer? 9 = none ∧ ShutDown s 9 events t :=
  ⟨by decide, by decide, by decide, by decide, ⟨.granted, by decide, rfl⟩, by decide,
    close_complete { maxSize := 3, maxIdle := 1 } false (by decide) (by decide) (by decide)
      (by decide)⟩

/-- A second call takes over what is on its way out while the first one is at the idle connections,
and a connection comes back from outside after the only call has ended. -/
theorem connections_left_open :
    (¬ ∀ (config : Config) (before events : List Event) (call : Nat),
      let s := (State.ofConfig config false).after before
      let t := (s.step (.close call)).after events
      (∀ event ∈ before ++ events, event.closes = true) → (∀ event ∈ events, event.warms = false) →
      s.warmUps = [] → s.closer? call = none → t.closer? call = none →
      ∀ entry ∈ s.retiring, entry.connection ∈ t.closed) ∧
    ¬ ∀ (config : Config) (before events : List Event) (call : Nat),
      let s := (State.ofConfig config false).after before
      let t := (s.step (.close call)).after events
      (∀ event ∈ before ++ events, event.closes = true) → (∀ event ∈ events, event.warms = false) →
      s.warmUps = [] → s.closer? call = none →
      ∀ connection outside, connection ∈ t.loans.map Loan.connection →
        HandedOver (t.step (.giveBack connection outside)) connection := by
  constructor
  · intro closed
    have among := closed { maxSize := 2, maxIdle := 1 } [.get 0, .get 1, .opened 0 1, .opened 1 2,
      .giveBack 1 false, .giveBack 2 false] [.close 11, .drained 10 true] 10 (by decide) (by decide)
      (by decide) (by decide) (by decide) (.closing 2) (by decide)
    revert among
    decide
  · intro handed
    cases handed { maxSize := 1 } [.get 0, .opened 0 1] [] 10 (by decide) (by decide) (by decide)
      (by decide) 1 true (by decide) with
    | closed closed => revert closed; decide
    | task closing => revert closing; decide
    | call call due =>
      cases due with
      | closed closed => revert closed; decide
      | taken _ taken => nomatch taken
      | awaited _ drains =>
        obtain ⟨closer, found, _⟩ := drains
        nomatch found

end SqlProbe.Pool
