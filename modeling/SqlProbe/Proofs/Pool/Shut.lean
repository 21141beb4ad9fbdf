import SqlProbe.Proofs.Pool.Effects

/-!
# Pools that have been told to close

From the moment on in which a pool is told to close it keeps nothing idle. Whoever comes to borrow,
or has come and waits for a slot, is turned away; only borrowers that deal with a connection already
may still get it. A connection that comes back is closed, by a task of its own if one can be started
where it comes back, and otherwise by a closing of the whole pool that has yet to look for it.
-/

namespace SqlProbe.Pool

/-- A pool that has been told to close, and in which nothing is opened in advance. -/
structure Shut (s : State) : Prop where
  shut : s.shut = true
  idle : s.idle = []
  quiet : s.warmUps = []

/-! ### What is left of the operations -/

section Operations

variable {s : State} {call : Nat}

theorem release_of_shut (shut : s.shut = true) : s.release = { s with free := s.free + 1 } := by
  simp [State.release, shut]

theorem leave_of_shut (shut : s.shut = true) (call : Nat) :
    ∃ free, s.leave call = { s with free, gets := others call s.gets } := by
  rcases leave_cases s call with eq | eq
  · exact ⟨s.free, eq⟩
  · exact ⟨_, eq.trans (release_of_shut shut)⟩

theorem fail_of_shut (shut : s.shut = true) (call : Nat) (cause : Error) :
    ∃ free, s.fail call cause =
      { s with
        free
        gets := others call s.gets
        waiting := s.waiting - 1
        results := (call, .error cause) :: s.results } := by
  obtain ⟨free, eq⟩ := leave_of_shut shut call
  rw [State.fail, eq]
  exact ⟨free, rfl⟩

theorem startGet_of_shut (shut : s.shut = true) :
    s.startGet call = { s with results := (call, .error poolClosed) :: s.results } := by
  rw [State.startGet, if_pos shut]

theorem examine_of_idle_nil (idle : s.idle = []) : s.examine call = s.setGet call .opening := by
  rw [State.examine, idle]

/-- What comes back is closed already, or is sent on its way out. -/
theorem takeBack_of_shut (shut : s.shut = true) (loan : Loan) (outside : Bool) :
    loan.connection ∈ s.closed ∧ s.takeBack loan outside = s ∨
      s.takeBack loan outside = s.retire loan.connection outside := by
  unfold State.takeBack
  rw [if_pos shut]
  split
  · next closed => exact .inl ⟨List.contains_iff_mem.mp closed, rfl⟩
  · exact .inr rfl

theorem giveBack_of_shut (shut : s.shut = true) (loans : List Loan) (active : Nat) (loan : Loan)
    (outside : Bool) :
    loan.connection ∈ s.closed ∧ ({ s with loans, active }.takeBack loan outside).release =
        { s with loans, active, free := s.free + 1 } ∨
      ({ s with loans, active }.takeBack loan outside).release =
        { { s with loans, active }.retire loan.connection outside with free := s.free + 1 } := by
  rcases takeBack_of_shut (s := { s with loans, active }) shut loan outside with ⟨closed, eq⟩ | eq
  · rw [eq]
    exact .inl ⟨closed, release_of_shut (s := { s with loans, active }) shut⟩
  · rw [eq]
    refine .inr ?_
    cases outside <;> exact release_of_shut shut

end Operations

/-! ### Steps -/

/-- What becomes of a borrower, without a connection or not yet there, when a pool that has been
told to close takes a step. -/
inductive Fate (s : State) (event : Event) (t : State) (call : Nat) : Prop
  | same (get : t.get? call = s.get? call) (result : t.result? call = s.result? call)
  | turnedAway (get : t.get? call = none) (result : t.result? call = some (.error poolClosed))
  | busy {get : Get} (found : s.get? call = some get) (engaged : get.isEngaged = true)
  | leaves (own : event = .cancel call) (get : t.get? call = none)
      (result : t.result? call = s.result? call)

namespace Fate

variable {s t : State} {event : Event} {call : Nat}

theorem unchanged (gets : t.gets = s.gets) (results : t.results = s.results) (call : Nat) :
    Fate s event t call :=
  .same (by rw [State.get?, gets, State.get?]) (by rw [State.result?, results, State.result?])

/-- One borrower has left with a result, and the others are as they were. -/
theorem other_of_left {other : Nat} {outcome : Except Error Nat} (differ : other ≠ call)
    (gets : t.gets = others call s.gets) (results : t.results = (call, outcome) :: s.results) :
    Fate s event t other := by
  refine .same ?_ ?_
  · rw [State.get?, gets, lookup_others_of_ne differ, State.get?]
  · rw [State.result?, results, List.lookup_cons, beq_false_of_ne differ, State.result?]

theorem ofRefused (gets : t.gets = others call s.gets)
    (results : t.results = (call, .error poolClosed) :: s.results) (other : Nat) :
    Fate s event t other := by
  by_cases same : other = call
  · subst same
    refine .turnedAway ?_ ?_
    · rw [State.get?, gets, lookup_others_self]
    · rw [State.result?, results, List.lookup_cons_self]
  · exact other_of_left same gets results

theorem ofServed {get : Get} {outcome : Except Error Nat} (found : s.get? call = some get)
    (engaged : get.isEngaged = true) (gets : t.gets = others call s.gets)
    (results : t.results = (call, outcome) :: s.results) (other : Nat) :
    Fate s event t other := by
  by_cases same : other = call
  · exact .busy (same ▸ found) engaged
  · exact other_of_left same gets results

theorem ofGoesOn {get new : Get} (found : s.get? call = some get) (engaged : get.isEngaged = true)
    (gets : t.gets = (s.setGet call new).gets) (results : t.results = s.results) (other : Nat) :
    Fate s event t other := by
  by_cases same : other = call
  · exact .busy (same ▸ found) engaged
  · refine .same ?_ (by rw [State.result?, results, State.result?])
    rw [State.get?, gets]
    exact lookup_replace_of_ne same new

theorem ofCancelled (gets : t.gets = others call s.gets) (results : t.results = s.results)
    (other : Nat) : Fate s (.cancel call) t other := by
  have result (other : Nat) : t.result? other = s.result? other := by
    rw [State.result?, results, State.result?]
  by_cases same : other = call
  · subst same
    exact .leaves rfl (by rw [State.get?, gets, lookup_others_self]) (result other)
  · exact .same (by rw [State.get?, gets, lookup_others_of_ne same, State.get?]) (result other)

end Fate

namespace Shut

variable {s : State} {event : Event}

/-- What a step of a pool comes to that has been told to close. -/
theorem step_fate (shut : Shut s) (untold : event.warms = false) : (s.step event).shut = true ∧
    (s.step event).idle = [] ∧ ∀ call, Fate s event (s.step event) call := by
  have effect := step_effect s event
  obtain ⟨shut, idle, quiet⟩ := shut
  generalize s.step event = t at effect ⊢
  cases effect with
  | nothing => exact ⟨shut, idle, .unchanged rfl rfl⟩
  | tick => exact ⟨shut, idle, .unchanged rfl rfl⟩
  | lose => exact ⟨shut, idle, .unchanged rfl rfl⟩
  | get new =>
    rw [startGet_of_shut shut]
    exact ⟨shut, idle, .ofRefused (others_of_absent new).symm rfl⟩
  | @turnedAway call =>
    obtain ⟨_, eq⟩ := fail_of_shut shut call poolClosed
    rw [eq]
    exact ⟨shut, idle, .ofRefused rfl rfl⟩
  | turn _ running =>
    rw [shut] at running
    contradiction
  | usable found => exact ⟨shut, idle, .ofServed found rfl rfl rfl⟩
  | unusable found => exact ⟨shut, idle, .ofGoesOn found rfl rfl rfl⟩
  | @discarded call connection closed found =>
    rw [examine_of_idle_nil (by rwa [noteClosed_eq]), noteClosed_eq]
    exact ⟨shut, idle, .ofGoesOn found rfl rfl rfl⟩
  | opened found => exact ⟨shut, idle, .ofServed found rfl rfl rfl⟩
  | @refused call cause found =>
    obtain ⟨_, eq⟩ := fail_of_shut shut call cause
    rw [eq]
    exact ⟨shut, idle, .ofServed found rfl rfl rfl⟩
  | @expired call get found waits =>
    rcases waits with ⟨_, running⟩ | busy
    · rw [shut] at running
      contradiction
    · obtain ⟨_, eq⟩ := fail_of_shut shut call s.config.timedOut
      rw [eq]
      exact ⟨shut, idle, .ofServed found busy rfl rfl⟩
  | cancelled call =>
    obtain ⟨_, eq⟩ := leave_of_shut shut call
    rw [eq]
    exact ⟨shut, idle, .ofCancelled rfl rfl⟩
  | @givenBack connection loan outside =>
    rcases giveBack_of_shut shut (s.loans.erase loan) (s.active - 1) loan outside with ⟨_, eq⟩ | eq
    · rw [eq]
      exact ⟨shut, idle, .unchanged rfl rfl⟩
    · rw [eq]
      cases outside <;> exact ⟨shut, idle, .unchanged rfl rfl⟩
  | retired =>
    rw [noteClosed_eq]
    exact ⟨shut, idle, .unchanged rfl rfl⟩
  | warmUp => contradiction
  | warmed warming =>
    rw [quiet] at warming
    contradiction
  | warmFailed => exact ⟨shut, idle, .unchanged rfl rfl⟩
  | @closeIdle call =>
    obtain ⟨_, _, eq⟩ := drain_eq s call false
    rw [eq]
    exact ⟨shut, rfl, .unchanged rfl rfl⟩
  | @close call =>
    obtain ⟨_, _, eq⟩ := drain_eq { s with shut := true } call true
    rw [eq]
    exact ⟨rfl, rfl, .unchanged rfl rfl⟩
  | @drained call connection rest wholePool closed =>
    obtain ⟨_, _, eq⟩ := drainNext_eq (s.noteClosed connection closed) call wholePool rest
    rw [eq, noteClosed_eq]
    exact ⟨shut, idle, .unchanged rfl rfl⟩
  | @finished call connection rest closed =>
    obtain ⟨_, eq⟩ := finishNext_eq (s.noteClosed connection closed) call rest
    rw [eq, noteClosed_eq]
    exact ⟨shut, idle, .unchanged rfl rfl⟩
  | @joined call _ rest =>
    obtain ⟨_, eq⟩ := finishNext_eq s call rest
    rw [eq]
    exact ⟨shut, idle, .unchanged rfl rfl⟩

theorem step (shut : Shut s) (untold : event.warms = false) : Shut (s.step event) := by
  obtain ⟨told, idle, -⟩ := shut.step_fate untold
  exact ⟨told, idle, List.subset_nil.mp (shut.quiet ▸ (step_continues s untold).warmUps)⟩

theorem after (shut : Shut s) {events : List Event}
    (untold : ∀ event ∈ events, event.warms = false) : Shut (s.after events) :=
  after_keeps_each Shut (fun _ _ untold shut => shut.step untold) shut untold

/-- A pool is told to close. -/
theorem close {call : Nat} (quiet : s.warmUps = []) (new : s.closer? call = none) :
    Shut (s.step (.close call)) := by
  obtain ⟨_, _, eq⟩ := drain_eq { s with shut := true } call true
  have step : s.step (.close call) = { s with shut := true }.drain call true := by
    simp [State.step, new]
  rw [step, eq]
  exact ⟨rfl, rfl, quiet⟩

end Shut

/-! ### Borrowers -/

/-- A borrower waits for a slot, or has been given one and waits for its turn. -/
def State.Queues (s : State) (call : Nat) : Prop :=
  ∃ get, s.get? call = some get ∧ get.isEngaged = false

/-- A borrower has been told that the pool is closed. -/
structure TurnedAway (s : State) (call : Nat) : Prop where
  gone : s.get? call = none
  told : s.result? call = some (.error poolClosed)

section Borrowers

variable {s : State} {event : Event} {call : Nat}

/-- Whoever comes to a pool that has been told to close is turned away at once. -/
theorem Shut.turnedAway_get (shut : Shut s) (new : s.get? call = none) :
    TurnedAway (s.step (.get call)) call := by
  have step : s.step (.get call) = s.startGet call := by simp [State.step, new]
  rw [step, startGet_of_shut shut.shut]
  exact ⟨new, List.lookup_cons_self⟩

/-- Whoever waits has its turn to be turned away. -/
theorem Shut.turnedAway_resume (shut : Shut s) (queues : s.Queues call) :
    TurnedAway (s.step (.resume call)) call := by
  obtain ⟨get, found, idle⟩ := queues
  have step : s.step (.resume call) = s.fail call poolClosed := by
    cases get with
    | queued => simp [State.step, found, shut.shut]
    | granted => simp [State.step, found, shut.shut]
    | validating => contradiction
    | discarding => contradiction
    | opening => contradiction
  obtain ⟨_, eq⟩ := fail_of_shut shut.shut call poolClosed
  rw [step, eq]
  exact ⟨lookup_others_self s.gets call, List.lookup_cons_self⟩

theorem TurnedAway.step (before : TurnedAway s call) (shut : Shut s)
    (untold : event.warms = false) : TurnedAway (s.step event) call := by
  obtain ⟨gone, told⟩ := before
  obtain ⟨-, -, fates⟩ := shut.step_fate untold
  cases fates call with
  | same get result => exact ⟨get.trans gone, result.trans told⟩
  | turnedAway get result => exact ⟨get, result⟩
  | busy found =>
    rw [gone] at found
    contradiction
  | leaves _ get result => exact ⟨get, result.trans told⟩

theorem Shut.step_queues (shut : Shut s) (untold : event.warms = false) (queues : s.Queues call)
    (stays : event ≠ .cancel call) :
    TurnedAway (s.step event) call ∨ (s.step event).Queues call := by
  obtain ⟨get, found, idle⟩ := queues
  obtain ⟨-, -, fates⟩ := shut.step_fate untold
  cases fates call with
  | same same => exact .inr ⟨get, same.trans found, idle⟩
  | turnedAway get result => exact .inl ⟨get, result⟩
  | busy found' engaged =>
    rw [found] at found'
    cases found'
    rw [idle] at engaged
    contradiction
  | leaves own => contradiction

theorem TurnedAway.after (before : TurnedAway s call) (shut : Shut s) {events : List Event}
    (untold : ∀ event ∈ events, event.warms = false) : TurnedAway (s.after events) call := by
  refine (after_keeps_each (fun t => Shut t ∧ TurnedAway t call) ?_ ⟨shut, before⟩ untold).2
  rintro t event untold ⟨shut, before⟩
  exact ⟨shut.step untold, before.step shut untold⟩

/-- Whoever waits for a slot when a pool is told to close, and does not go away, waits on until it
has its turn, and is turned away. -/
theorem Shut.after_queues (shut : Shut s) {events : List Event}
    (untold : ∀ event ∈ events, event.warms = false) (queues : s.Queues call)
    (stays : .cancel call ∉ events) : TurnedAway (s.after events) call ∨
      (s.after events).Queues call ∧ .resume call ∉ events := by
  induction events generalizing s with
  | nil => exact .inr ⟨queues, List.not_mem_nil⟩
  | cons event events ih =>
    have first := untold event List.mem_cons_self
    have rest (event : Event) (member : event ∈ events) := untold event (List.mem_cons_of_mem _ member)
    have stays' : event ≠ .cancel call := fun same => stays (same ▸ List.mem_cons_self)
    rcases shut.step_queues first queues stays' with turned | waits
    · exact .inl (turned.after (shut.step first) rest)
    · refine (ih (shut.step first) rest waits fun member =>
        stays (List.mem_cons_of_mem _ member)).imp_right ?_
      rintro ⟨waits', later⟩
      refine ⟨waits', List.not_mem_cons_of_ne_of_not_mem ?_ later⟩
      rintro rfl
      -- Had this been its turn, it would not wait any more.
      obtain ⟨get, found, _⟩ := waits
      rw [(shut.turnedAway_resume queues).gone] at found
      contradiction

end Borrowers

/-! ### Connections that come back -/

/-- A connection that comes back to a pool that has been told to close is closed already, or is
closed by a task of its own, or waits for a closing of the whole pool if no task could be started. -/
theorem Shut.giveBack {s : State} (shut : Shut s) {connection : Nat} (outside : Bool)
    (lent : connection ∈ s.loans.map Loan.connection) :
    connection ∈ (s.step (.giveBack connection outside)).closed ∨
      outside = false ∧ connection ∈ (s.step (.giveBack connection outside)).closings ∨
      outside = true ∧ .pending connection ∈ (s.step (.giveBack connection outside)).retiring := by
  obtain ⟨loan', among, same'⟩ := List.mem_map.mp lent
  cases found : s.loans.find? fun loan => loan.connection = connection with
  | none =>
    have none := List.find?_eq_none.mp found loan' among
    simp [same'] at none
  | some loan =>
    have same : loan.connection = connection := by simpa using List.find?_some found
    subst same
    simp only [State.step, State.giveBack, found]
    rcases giveBack_of_shut shut.shut (s.loans.erase loan) (s.active - 1) loan outside with
      ⟨closed, eq⟩ | eq
    · rw [eq]
      exact .inl closed
    · rw [eq]
      cases outside with
      | false =>
        exact .inr (.inl ⟨rfl, List.mem_append_right _ (List.mem_singleton_self _)⟩)
      | true =>
        exact .inr (.inr ⟨rfl, List.mem_append_right _ (List.mem_singleton_self _)⟩)

end SqlProbe.Pool
