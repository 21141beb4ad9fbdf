import SqlProbe.Proofs.Pool.Shut

/-!
# Closed pools that open connections

A pool that has been told to close keeps nothing idle and turns borrowers away, but it looks at this
only when a borrower comes or has its turn and when a connection comes back. Two things can still
open a connection: a borrower that was having an idle connection closed finds nothing idle
afterwards, and connections are opened in advance. These are all: a closed pool stays closed exactly
as long as neither happens.
-/

namespace SqlProbe.Pool

namespace State

/-- A connection begins to be opened, for a borrower or in advance. -/
def Attempts (s : State) (event : Event) : Prop :=
  (∃ call, s.get? call ≠ some .opening ∧ (s.step event).get? call = some .opening) ∨
    ∃ call ∈ (s.step event).warmUps,
      call ∉ s.warmUps ∨ ∃ connection, connection ∉ s.opened ∧ event = .warmed call connection

/-- A borrower has in hand a connection that was idle, to have it checked or closed. -/
def Examines (s : State) (call : Nat) : Prop :=
  ∃ get connection, s.get? call = some get ∧ get.connection? = some connection

end State

/-- The event does not end the closing of an idle connection for a borrower, does not begin to open
connections in advance unless none are wanted, and brings none that was opened in advance. -/
def KeepsClosed (s : State) : Event → Prop
  | .discarded call _ => ∀ connection, s.get? call ≠ some (.discarding connection)
  | .warmUp call => call ∈ s.warmUps ∨ s.config.warmTarget = 0
  | .warmed call connection => call ∈ s.warmUps → connection ∈ s.opened
  | _ => True

/-- Only these events can open a connection. -/
def Event.mayOpen : Event → Bool
  | discarded _ _ => true
  | warmUp _ => true
  | warmed _ _ => true
  | _ => false

/-! ### Entries of borrowers -/

section Entries

variable {s t : State} {call : Nat}

/-- What a borrower waits for after a step was there before, or is the one change of the step. -/
theorem get?_setGet {other : Nat} {get old new : Get} (had : s.get? call = some old)
    (found : (s.setGet call new).get? other = some get) :
    s.get? other = some get ∨ other = call ∧ get = new := by
  by_cases same : other = call
  · subst same
    rw [State.get?, State.setGet, lookup_replace_self had] at found
    exact .inr ⟨rfl, (Option.some.inj found).symm⟩
  · rw [State.get?, State.setGet, lookup_replace_of_ne same] at found
    exact .inl found

theorem get?_of_others {other : Nat} {get : Get} (gets : t.gets = others call s.gets)
    (found : t.get? other = some get) : s.get? other = some get := by
  rw [State.get?, gets] at found
  by_cases same : other = call
  · rw [same, lookup_others_self] at found
    contradiction
  · rwa [lookup_others_of_ne same] at found

end Entries

/-! ### Steps of a closed pool -/

/-- No borrower waits for anything that it did not wait for before, except that a connection that has
been checked may be on its way to be closed. -/
def Waits (s t : State) : Prop :=
  ∀ call get, t.get? call = some get → s.get? call = some get ∨
    ∃ connection createdAt, s.get? call = some (.validating connection createdAt) ∧
      get = .discarding connection

namespace Waits

variable {s t : State}

theorem same (gets : t.gets = s.gets) : Waits s t := by
  intro call get found
  rw [State.get?, gets] at found
  exact .inl found

theorem without {call : Nat} (gets : t.gets = others call s.gets) : Waits s t :=
  fun _ _ found => .inl (get?_of_others gets found)

/-- Nobody begins to wait for a new connection. -/
theorem opening (waits : Waits s t) {call : Nat} (found : t.get? call = some .opening) :
    s.get? call = some .opening := by
  rcases waits call _ found with before | ⟨_, _, _, other⟩
  · exact before
  · contradiction

theorem examines (waits : Waits s t) {call : Nat} (examines : t.Examines call) :
    s.Examines call := by
  obtain ⟨get, connection, found, taken⟩ := examines
  rcases waits call get found with before | ⟨connection, createdAt, before, -⟩
  · exact ⟨get, connection, before, taken⟩
  · exact ⟨_, connection, before, rfl⟩

end Waits

section Steps

variable {s : State} {event : Event}

/-- Events that cannot open a connection leave a closed pool closed. -/
theorem step_of_not_mayOpen (shut : s.shut = true) (harmless : event.mayOpen = false) :
    (s.step event).shut = true ∧ (s.step event).idle ⊆ s.idle ∧
      (s.step event).warmUps ⊆ s.warmUps ∧ Waits s (s.step event) := by
  have effect := step_effect s event
  generalize s.step event = t at effect ⊢
  cases effect with
  | nothing => exact ⟨shut, List.Subset.refl _, List.Subset.refl _, .same rfl⟩
  | tick => exact ⟨shut, List.Subset.refl _, List.Subset.refl _, .same rfl⟩
  | lose => exact ⟨shut, List.Subset.refl _, List.Subset.refl _, .same rfl⟩
  | get =>
    rw [startGet_of_shut shut]
    exact ⟨shut, List.Subset.refl _, List.Subset.refl _, .same rfl⟩
  | @turnedAway call =>
    obtain ⟨_, eq⟩ := fail_of_shut shut call poolClosed
    rw [eq]
    exact ⟨shut, List.Subset.refl _, List.Subset.refl _, .without rfl⟩
  | turn _ running =>
    rw [shut] at running
    contradiction
  | usable => exact ⟨shut, List.Subset.refl _, List.Subset.refl _, .without rfl⟩
  | @unusable call connection createdAt found =>
    refine ⟨shut, List.Subset.refl _, List.Subset.refl _, ?_⟩
    intro other get after
    rcases get?_setGet found after with before | ⟨rfl, rfl⟩
    · exact .inl before
    · exact .inr ⟨connection, createdAt, found, rfl⟩
  | discarded => contradiction
  | opened => exact ⟨shut, List.Subset.refl _, List.Subset.refl _, .without rfl⟩
  | @refused call cause =>
    obtain ⟨_, eq⟩ := fail_of_shut shut call cause
    rw [eq]
    exact ⟨shut, List.Subset.refl _, List.Subset.refl _, .without rfl⟩
  | @expired call =>
    obtain ⟨_, eq⟩ := fail_of_shut shut call s.config.timedOut
    rw [eq]
    exact ⟨shut, List.Subset.refl _, List.Subset.refl _, .without rfl⟩
  | cancelled call =>
    obtain ⟨_, eq⟩ := leave_of_shut shut call
    rw [eq]
    exact ⟨shut, List.Subset.refl _, List.Subset.refl _, .without rfl⟩
  | @givenBack connection loan outside =>
    rcases giveBack_of_shut shut (s.loans.erase loan) (s.active - 1) loan outside with ⟨_, eq⟩ | eq
    · rw [eq]
      exact ⟨shut, List.Subset.refl _, List.Subset.refl _, .same rfl⟩
    · rw [eq]
      cases outside <;> exact ⟨shut, List.Subset.refl _, List.Subset.refl _, .same rfl⟩
  | retired =>
    rw [noteClosed_eq]
    exact ⟨shut, List.Subset.refl _, List.Subset.refl _, .same rfl⟩
  | warmUp => contradiction
  | warmed => contradiction
  | warmFailed => exact ⟨shut, List.Subset.refl _, List.erase_subset, .same rfl⟩
  | @closeIdle call =>
    obtain ⟨_, _, eq⟩ := drain_eq s call false
    rw [eq]
    exact ⟨shut, List.nil_subset _, List.Subset.refl _, .same rfl⟩
  | @close call =>
    obtain ⟨_, _, eq⟩ := drain_eq { s with shut := true } call true
    rw [eq]
    exact ⟨rfl, List.nil_subset _, List.Subset.refl _, .same rfl⟩
  | @drained call connection rest wholePool closed =>
    obtain ⟨_, _, eq⟩ := drainNext_eq (s.noteClosed connection closed) call wholePool rest
    rw [eq, noteClosed_eq]
    exact ⟨shut, List.Subset.refl _, List.Subset.refl _, .same rfl⟩
  | @finished call connection rest closed =>
    obtain ⟨_, eq⟩ := finishNext_eq (s.noteClosed connection closed) call rest
    rw [eq, noteClosed_eq]
    exact ⟨shut, List.Subset.refl _, List.Subset.refl _, .same rfl⟩
  | @joined call _ rest =>
    obtain ⟨_, eq⟩ := finishNext_eq s call rest
    rw [eq]
    exact ⟨shut, List.Subset.refl _, List.Subset.refl _, .same rfl⟩

/-- A step that changes nothing opens no connection. -/
theorem not_attempts_of_step_eq (same : s.step event = s)
    (other : ∀ call connection, event = .warmed call connection → call ∈ s.warmUps →
      connection ∈ s.opened) : ¬s.Attempts event := by
  rintro (⟨call, before, after⟩ | ⟨call, warming, new | ⟨connection, fresh, own⟩⟩)
  · rw [same] at after
    exact before after
  · rw [same] at warming
    exact new warming
  · rw [same] at warming
    exact fresh (other call connection own warming)

/-- A borrower whose idle connection has been closed opens a new one, since nothing is idle. -/
theorem keepsClosed_discarded (idle : s.idle = []) (call : Nat) (closed : Bool) :
    KeepsClosed s (.discarded call closed) ↔ ¬s.Attempts (.discarded call closed) ∧
      (s.step (.discarded call closed)).idle = [] := by
  constructor
  · intro keeps
    have same : s.step (.discarded call closed) = s := by
      simp only [State.step]
      split
      · next found => exact absurd found (keeps _)
      · rfl
    exact ⟨not_attempts_of_step_eq same (by rintro _ _ ⟨⟩), same.symm ▸ idle⟩
  · rintro ⟨quiet, -⟩ connection found
    refine quiet (.inl ⟨call, ?_, ?_⟩)
    · rw [found]
      simp
    · have none : (s.noteClosed connection closed).idle = [] := by rwa [noteClosed_eq]
      simp only [State.step, found]
      rw [examine_of_idle_nil none, noteClosed_eq]
      exact lookup_replace_self found .opening

/-- Whoever is to open connections in advance begins to, unless none are wanted. -/
theorem keepsClosed_warmUp (idle : s.idle = []) (call : Nat) :
    KeepsClosed s (.warmUp call) ↔ ¬s.Attempts (.warmUp call) ∧
      (s.step (.warmUp call)).idle = [] := by
  by_cases warming : call ∈ s.warmUps
  · have same : s.step (.warmUp call) = s := by simp [State.step, warming]
    refine ⟨fun _ => ⟨not_attempts_of_step_eq same (by rintro _ _ ⟨⟩), same.symm ▸ idle⟩, fun _ => .inl warming⟩
  · have step : s.step (.warmUp call) = s.warm call := by simp [State.step, warming]
    by_cases wanted : s.config.warmTarget = 0
    · have same : s.step (.warmUp call) = s := by
        rw [step, State.warm, if_pos (by omega), List.erase_of_not_mem warming]
      exact ⟨fun _ => ⟨not_attempts_of_step_eq same (by rintro _ _ ⟨⟩), same.symm ▸ idle⟩, fun _ => .inr wanted⟩
    · constructor
      · rintro (before | none)
        · contradiction
        · contradiction
      · rintro ⟨quiet, -⟩
        refine absurd (.inr ⟨call, ?_, .inl warming⟩) quiet
        have few : ¬s.config.warmTarget ≤ s.idle.length := by
          rw [idle, List.length_nil]
          omega
        rw [step, State.warm, if_neg few, if_neg (by simpa using warming)]
        exact List.mem_append_right _ (List.mem_singleton_self call)

/-- A connection that has been opened in advance becomes idle. -/
theorem keepsClosed_warmed (idle : s.idle = []) (call connection : Nat) :
    KeepsClosed s (.warmed call connection) ↔ ¬s.Attempts (.warmed call connection) ∧
      (s.step (.warmed call connection)).idle = [] := by
  by_cases fits : call ∈ s.warmUps ∧ connection ∉ s.opened
  · constructor
    · intro keeps
      exact absurd (keeps fits.1) fits.2
    · rintro ⟨-, none⟩
      have step : s.step (.warmed call connection) =
          ((s.noteOpened connection).putWarm connection).warm call := by
        simp [State.step, fits.1, fits.2]
      obtain ⟨_, eq⟩ := warm_eq ((s.noteOpened connection).putWarm connection) call
      rw [step, eq] at none
      exact absurd none (List.append_ne_nil_of_right_ne_nil _ (List.cons_ne_nil _ _))
  · have same : s.step (.warmed call connection) = s := by
      simp only [State.step]
      split
      · next warming =>
        simp only [Bool.and_eq_true, Bool.not_eq_true', List.contains_eq_mem, decide_eq_true_eq,
          decide_eq_false_iff_not] at warming
        exact absurd warming fits
      · rfl
    have known : call ∈ s.warmUps → connection ∈ s.opened := by
      intro warming
      by_contra fresh
      exact fits ⟨warming, fresh⟩
    refine ⟨fun _ => ⟨not_attempts_of_step_eq same ?_, same.symm ▸ idle⟩, fun _ => known⟩
    rintro _ _ ⟨⟩
    exact known

/-- A step leaves a closed pool closed exactly if its event does. -/
theorem keepsClosed_iff (shut : s.shut = true) (idle : s.idle = []) (event : Event) :
    KeepsClosed s event ↔ ¬s.Attempts event ∧ (s.step event).idle = [] := by
  have harmless (harmless : event.mayOpen = false) :
      ¬s.Attempts event ∧ (s.step event).idle = [] := by
    obtain ⟨-, idle', fewer, waits⟩ := step_of_not_mayOpen shut harmless
    refine ⟨?_, List.subset_nil.mp (idle ▸ idle')⟩
    rintro (⟨call, before, after⟩ | ⟨call, warming, new | ⟨connection, -, rfl⟩⟩)
    · exact before (waits.opening after)
    · exact new (fewer warming)
    · contradiction
  cases event with
  | discarded call closed => exact keepsClosed_discarded idle call closed
  | warmUp call => exact keepsClosed_warmUp idle call
  | warmed call connection => exact keepsClosed_warmed idle call connection
  | _ => exact ⟨fun _ => harmless rfl, fun _ => trivial⟩

/-- A borrower that has nothing idle in hand does not get anything idle in hand any more. -/
theorem step_of_shut (shut : s.shut = true) (event : Event) : (s.step event).shut = true ∧
    ∀ call, (s.step event).Examines call → s.Examines call := by
  cases may : event.mayOpen with
  | false =>
    obtain ⟨shut', -, -, waits⟩ := step_of_not_mayOpen shut may
    exact ⟨shut', fun _ => waits.examines⟩
  | true =>
    have effect := step_effect s event
    generalize s.step event = t at effect ⊢
    cases effect with
    | nothing => exact ⟨shut, fun _ => id⟩
    | @discarded call connection closed found =>
      have own : s.Examines call := ⟨_, connection, found, rfl⟩
      have others {u : State} (same : ∀ other, other ≠ call → u.get? other = s.get? other) (other : Nat)
          (examines : u.Examines other) : s.Examines other := by
        by_cases mine : other = call
        · rw [mine]
          exact own
        · obtain ⟨get, connection, found, taken⟩ := examines
          exact ⟨get, connection, (same other mine).symm.trans found, taken⟩
      rcases examine_cases (s.noteClosed connection closed) call with ⟨_, eq⟩ |
        ⟨_, _, _, _, _, ⟨get, _, _, eq⟩ | eq⟩
      · rw [eq, noteClosed_eq]
        exact ⟨shut, others fun _ differ => lookup_replace_of_ne differ _⟩
      · rw [eq, noteClosed_eq]
        exact ⟨shut, others fun _ differ => lookup_replace_of_ne differ _⟩
      · rw [eq, noteClosed_eq]
        exact ⟨shut, others fun _ differ => lookup_others_of_ne differ⟩
    | @warmUp call =>
      obtain ⟨_, eq⟩ := warm_eq s call
      rw [eq]
      exact ⟨shut, fun _ => id⟩
    | @warmed call connection =>
      obtain ⟨_, eq⟩ := warm_eq ((s.noteOpened connection).putWarm connection) call
      rw [eq]
      exact ⟨shut, fun _ => id⟩
    | _ => contradiction

end Steps

/-! ### Runs -/

/-- What remains closed is known for each event of a run. -/
theorem respects_keepsClosed_iff {s : State} (shut : s.shut = true) (idle : s.idle = [])
    (events : List Event) : Respects KeepsClosed s events ↔
      Respects (fun s event => ¬s.Attempts event ∧ (s.step event).idle = []) s events := by
  induction events generalizing s with
  | nil => exact Iff.rfl
  | cons event events ih =>
    have first := keepsClosed_iff shut idle event
    have shut' := (step_of_shut shut event).1
    constructor
    · rintro ⟨keeps, later⟩
      have quiet := first.mp keeps
      exact ⟨quiet, (ih shut' quiet.2).mp later⟩
    · rintro ⟨quiet, later⟩
      exact ⟨first.mpr quiet, (ih shut' quiet.2).mpr later⟩

/-- Whoever has an idle connection in hand had one when the pool was told to close. -/
theorem examines_of_after {s : State} (shut : s.shut = true) {events : List Event} {call : Nat}
    (examines : (s.after events).Examines call) : s.Examines call := by
  induction events generalizing s with
  | nil => exact examines
  | cons event events ih =>
    obtain ⟨shut', before⟩ := step_of_shut shut event
    exact before call (ih shut' examines)

/-- A pool is told to close. It stays closed, with no connection beginning to be opened and none
idle, exactly if nobody's idle connection ends being closed and no connection is opened in advance.
Only a borrower that had an idle connection in hand at that moment can be in the way. -/
theorem stays_closed_iff (s : State) {call : Nat} (new : s.closer? call = none)
    (events : List Event) : (s.step (.close call)).idle = [] ∧
      (Respects (fun t event => ¬t.Attempts event ∧ (t.step event).idle = []) (s.step (.close call))
        events ↔ Respects KeepsClosed (s.step (.close call)) events) ∧
      ∀ borrower, ((s.step (.close call)).after events).Examines borrower → s.Examines borrower := by
  have told : s.step (.close call) = { s with shut := true }.drain call true := by
    simp [State.step, new]
  obtain ⟨_, _, eq⟩ := drain_eq { s with shut := true } call true
  have shut : (s.step (.close call)).shut = true := by rw [told, eq]
  have idle : (s.step (.close call)).idle = [] := by rw [told, eq]
  refine ⟨idle, (respects_keepsClosed_iff shut idle events).symm, ?_⟩
  intro borrower examines
  have before : (s.step (.close call)).Examines borrower := examines_of_after shut examines
  rwa [told, eq] at before

/-- A connection is overdue and is being closed for a borrower when the pool is told to close; the
borrower goes away before that has ended. -/
theorem stays_closed_iff_impatient :
    let s := (State.ofConfig { idleTimeout := 5 } false).after [.get 0, .opened 0 1,
      .giveBack 1 false, .tick 6, .get 1]
    let events : List Event := [.cancel 1, .warmFailed 2, .discarded 1 true]
    s.closer? 9 = none ∧ s.Examines 1 ∧ (s.step (.close 9)).idle = [] ∧
      (Respects (fun t event => ¬t.Attempts event ∧ (t.step event).idle = []) (s.step (.close 9))
        events ↔ Respects KeepsClosed (s.step (.close 9)) events) ∧
      ∀ borrower, ((s.step (.close 9)).after events).Examines borrower → s.Examines borrower :=
  ⟨by decide, ⟨.discarding 1, 1, by decide, rfl⟩, stays_closed_iff _ (by decide) _⟩

/-- A borrower whose overdue connection is being closed opens a new one after the pool has been told
to close, and a call that opens connections in advance fills a pool that has been closed. -/
theorem opened_after_close :
    (¬ ∀ (config : Config) (before events : List Event) (call : Nat),
      let s := (State.ofConfig config false).after before
      s.closer? call = none →
      Respects (fun t event => ¬t.Attempts event) (s.step (.close call)) events) ∧
    ¬ ∀ (config : Config) (before events : List Event) (call : Nat),
      let s := (State.ofConfig config false).after before
      let t := s.step (.close call)
      s.closer? call = none → t.closer? call = none → (t.after events).idle = [] := by
  constructor
  · intro quiet
    have respects := quiet { idleTimeout := 5 } [.get 0, .opened 0 1, .giveBack 1 false, .tick 6,
      .get 1] [.discarded 1 true] 9 (by decide)
    exact respects.1 (.inl ⟨1, by decide, by decide⟩)
  · intro empty
    have idle := empty { minSize := 1 } [] [.warmUp 1, .warmed 1 7] 9 (by decide) (by decide)
    revert idle
    decide

end SqlProbe.Pool
