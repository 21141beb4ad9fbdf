import SqlProbe.Proofs.Pool.Losses

/-!
# Calls that close connections

A closing call has a list of connections, of which it closes one after the other, or waits for the
task that does. It never leaves one behind: as long as every closing succeeds, a connection that a
call has taken over stays on its list until it is closed, and one on its way out stays there until a
call takes it over. And the list comes to its end.
-/

namespace SqlProbe.Pool

/-- The call closes the whole pool and has yet to look for what is on its way out. -/
def Closer.drainsPool : Closer → Bool
  | draining _ _ wholePool => wholePool
  | finishing _ _ => false

/-- A call closes the whole pool and has yet to look for what is on its way out. -/
def State.Drains (s : State) (call : Nat) : Prop :=
  ∃ closer, s.closer? call = some closer ∧ closer.drainsPool = true

/-! ### The calls' lists -/

section Lists

variable {s : State} {call other : Nat}

@[simp]
theorem closer?_setCloser_self (s : State) (call : Nat) (new : Option Closer) :
    (s.setCloser call new).closer? call = new := by
  change (others call s.closers ++ (new.map (call, ·)).toList).lookup call = new
  rw [List.lookup_append, lookup_others_self, Option.none_or]
  cases new with
  | none => rfl
  | some closer => exact List.lookup_cons_self

theorem closer?_setCloser_of_ne (differ : other ≠ call) (new : Option Closer) :
    (s.setCloser call new).closer? other = s.closer? other := by
  change (others call s.closers ++ (new.map (call, ·)).toList).lookup other = _
  rw [List.lookup_append, lookup_others_of_ne differ]
  cases new with
  | none => exact Option.or_none
  | some closer =>
    rw [Option.map_some, Option.toList_some, List.lookup_cons, beq_false_of_ne differ]
    exact Option.or_none

theorem closer?_finishNext_of_ne (differ : other ≠ call) (rest : List Retiring) :
    (s.finishNext call rest).closer? other = s.closer? other := by
  cases rest <;> exact closer?_setCloser_of_ne differ _

theorem connectionsOf_finishNext (s : State) (call : Nat) (rest : List Retiring) :
    connectionsOf ((s.finishNext call rest).closer? call) = rest.map Retiring.connection := by
  cases rest <;> rw [State.finishNext, closer?_setCloser_self] <;> rfl

theorem mem_connectionsOf_drainNext (s : State) (call : Nat) (wholePool : Bool) {rest : List Nat}
    {connection : Nat} (member : connection ∈ rest) :
    connection ∈ connectionsOf ((s.drainNext call wholePool rest).closer? call) := by
  cases rest with
  | nil => contradiction
  | cons first rest =>
    rw [State.drainNext, closer?_setCloser_self]
    exact member

theorem drainsPool_of_found {closer : Closer} (found : s.closer? call = some closer)
    (drains : s.Drains call) : closer.drainsPool = true := by
  obtain ⟨closer', found', drains⟩ := drains
  rw [found] at found'
  cases found'
  exact drains

/-- With its first connection closed, a call still has the others to close. -/
theorem rest_of_found {closer : Closer} {first : Nat} {rest : List Nat}
    (found : s.closer? call = some closer) (list : closer.connections = first :: rest)
    (closed : first ∈ s.closed) : ∀ connection ∈ connectionsOf (s.closer? call),
      connection ∈ rest ∨ connection ∈ s.closed := by
  intro connection member
  rw [found, connectionsOf, list] at member
  rcases List.mem_cons.mp member with rfl | later
  · exact .inr closed
  · exact .inl later

end Lists

/-! ### Who closes a connection -/

/-- A connection is closed, or a closing call has taken it over, or it is on its way out and the
given call will take over what is. -/
inductive Due (s : State) (call connection : Nat) : Prop
  | closed (closed : connection ∈ s.closed)
  | taken (other : Nat) (taken : connection ∈ connectionsOf (s.closer? other))
  | awaited (departs : connection ∈ s.retiring.map Retiring.connection) (drains : s.Drains call)

/-- What leaves the connections that closing calls have taken over with them, and those on their way
out where they will be taken over, until they are closed. -/
structure Clears (s t : State) : Prop where
  closed : s.closed ⊆ t.closed
  taken : ∀ call, ∀ connection ∈ connectionsOf (s.closer? call),
    connection ∈ connectionsOf (t.closer? call) ∨ connection ∈ t.closed
  retiring : ∀ call, s.Drains call → ∀ connection ∈ s.retiring.map Retiring.connection,
    Due t call connection

namespace Clears

variable {s t u : State} {call : Nat}

theorem due (clears : Clears s t) {connection : Nat} (due : Due s call connection) :
    Due t call connection := by
  cases due with
  | closed closed => exact .closed (clears.closed closed)
  | taken other taken =>
    rcases clears.taken other connection taken with taken | closed
    · exact .taken other taken
    · exact .closed closed
  | awaited departs drains => exact clears.retiring call drains connection departs

theorem trans (first : Clears s t) (second : Clears t u) : Clears s u where
  closed := List.Subset.trans first.closed second.closed
  taken := by
    intro call connection member
    rcases first.taken call connection member with taken | closed
    · exact second.taken call connection taken
    · exact .inr (second.closed closed)
  retiring := fun call drains connection member =>
    second.due (first.retiring call drains connection member)

/-- What concerns no closing call, and takes nothing from what is on its way out. -/
theorem kept (closed : s.closed ⊆ t.closed) (closers : t.closers = s.closers)
    (retiring : ∀ connection ∈ s.retiring.map Retiring.connection,
      connection ∈ t.retiring.map Retiring.connection ∨ connection ∈ t.closed) : Clears s t where
  closed := closed
  taken := fun call connection member => .inl (by rwa [State.closer?, closers])
  retiring := by
    rintro call ⟨closer, found, drains⟩ connection member
    rcases retiring connection member with departs | closed
    · exact .awaited departs ⟨closer, by rwa [State.closer?, closers], drains⟩
    · exact .closed closed

theorem same (closed : t.closed = s.closed) (closers : t.closers = s.closers)
    (retiring : t.retiring = s.retiring) : Clears s t :=
  .kept (closed ▸ List.Subset.refl _) closers fun _ member => .inl (retiring ▸ member)

theorem undisturbed (undisturbed : Undisturbed s t) : Clears s t :=
  .same undisturbed.closed undisturbed.closers undisturbed.retiring

theorem noteClosed (s : State) (connection : Nat) (closed : Bool) :
    Clears s (s.noteClosed connection closed) := by
  have continues := Continues.noteClosed s connection closed
  rw [noteClosed_eq] at continues ⊢
  exact .kept continues.closed rfl fun _ member => .inl member

theorem setCloser {new : Option Closer} (given : ∀ connection ∈ connectionsOf (s.closer? call),
      connection ∈ connectionsOf new ∨ connection ∈ s.closed)
    (drains : s.Drains call → ∃ closer ∈ new, closer.drainsPool = true) :
    Clears s (s.setCloser call new) where
  closed := List.Subset.refl _
  taken := by
    intro other connection member
    by_cases same : other = call
    · subst same
      rw [closer?_setCloser_self]
      exact given connection member
    · rw [closer?_setCloser_of_ne same]
      exact .inl member
  retiring := by
    intro other awaits connection member
    refine .awaited member ?_
    by_cases same : other = call
    · subst same
      obtain ⟨closer, now, later⟩ := drains awaits
      exact ⟨closer, (closer?_setCloser_self s other new).trans now, later⟩
    · obtain ⟨closer, found, later⟩ := awaits
      exact ⟨closer, (closer?_setCloser_of_ne same new).trans found, later⟩

theorem finishNext {rest : List Retiring} (given : ∀ connection ∈ connectionsOf (s.closer? call),
      connection ∈ rest.map Retiring.connection ∨ connection ∈ s.closed) (past : ¬s.Drains call) :
    Clears s (s.finishNext call rest) := by
  cases rest with
  | nil => exact setCloser given fun drains => absurd drains past
  | cons head rest => exact setCloser given fun drains => absurd drains past

/-- The call takes over what is on its way out, for itself and for whoever else would have. -/
theorem takeOver (done : ∀ connection ∈ connectionsOf (s.closer? call), connection ∈ s.closed) :
    Clears s ({ s with retiring := [] }.finishNext call s.retiring) := by
  obtain ⟨_, eq⟩ := finishNext_eq { s with retiring := [] } call s.retiring
  have closed : ({ s with retiring := [] }.finishNext call s.retiring).closed = s.closed := by
    rw [eq]
  refine ⟨by rw [closed]; exact List.Subset.refl _, ?_, ?_⟩
  · intro other connection member
    by_cases same : other = call
    · subst same
      rw [closed]
      exact .inr (done connection member)
    · rw [closer?_finishNext_of_ne same]
      exact .inl member
  · -- Whichever call was to take the connection over, this one does.
    intro other _ connection member
    refine .taken call ?_
    rwa [connectionsOf_finishNext]

theorem drainNext {wholePool : Bool} {rest : List Nat}
    (given : ∀ connection ∈ connectionsOf (s.closer? call),
      connection ∈ rest ∨ connection ∈ s.closed) (drains : s.Drains call → wholePool = true) :
    Clears s (s.drainNext call wholePool rest) := by
  cases rest with
  | cons connection rest => exact setCloser given fun awaits => ⟨_, rfl, drains awaits⟩
  | nil =>
    cases wholePool with
    | false => exact setCloser given fun awaits => nomatch drains awaits
    | true => exact takeOver fun connection member => (given connection member).resolve_left nofun

theorem drain (new : s.closer? call = none) (wholePool : Bool) :
    Clears s (s.drain call wholePool) := by
  have cleared : Clears s { s with idle := [] } := .same rfl rfl rfl
  refine cleared.trans (drainNext ?_ ?_)
  · intro connection member
    rw [show State.closer? { s with idle := [] } call = none from new] at member
    contradiction
  · rintro ⟨closer, found, -⟩
    rw [show State.closer? { s with idle := [] } call = none from new] at found
    contradiction

/-- What is dropped from the connections on their way out is closed. -/
theorem retire (watched : Watched s) (connection : Nat) (outside : Bool) :
    Clears s (s.retire connection outside) := by
  have unfinished (last : Retiring) : ∀ other ∈ s.retiring.map Retiring.connection,
      other ∈ (s.retiring.filter (Retiring.isUnfinished s.closings) ++ [last]).map
        Retiring.connection ∨ other ∈ s.closed := by
    intro other member
    obtain ⟨entry, among, rfl⟩ := List.mem_map.mp member
    cases stays : entry.isUnfinished s.closings with
    | true =>
      exact .inl (List.mem_map_of_mem (List.mem_append_left _ (List.mem_filter.mpr ⟨among, stays⟩)))
    | false =>
      have ceased : entry.connection ∈ s.finished.map Retiring.connection :=
        List.mem_map_of_mem (List.mem_filter.mpr ⟨among, by rw [stays]; rfl⟩)
      obtain ⟨departing, ended⟩ := finished_spec ceased
      exact .inr ((watched _ departing).resolve_left ended)
  cases outside <;> exact .kept (List.Subset.refl _) rfl (unfinished _)

theorem giveBack (watched : Watched s) (loans : List Loan) (active : Nat) (loan : Loan)
    (outside : Bool) : Clears s ({ s with loans, active }.takeBack loan outside).release := by
  rcases giveBack_cases s loans active loan outside with still | ⟨t, before, after⟩
  · exact .undisturbed still
  · have watched' := (Follows.undisturbed before).watched watched
    exact (Clears.undisturbed before).trans ((retire watched' loan.connection outside).trans
      (.undisturbed after))

end Clears

/-- Where every closing that runs to its end succeeds, no step leaves a closing call behind. -/
theorem clears_step {s : State} (watched : Watched s) {event : Event} (closes : event.closes = true) :
    Clears s (s.step event) := by
  have effect := step_effect s event
  generalize s.step event = t at effect ⊢
  cases effect with
  | nothing => exact .same rfl rfl rfl
  | tick => exact .same rfl rfl rfl
  | lose => exact .noteClosed s _ true
  | get => exact .undisturbed (undisturbed_startGet s _)
  | turnedAway => exact .undisturbed (undisturbed_fail s _ _)
  | turn => exact .undisturbed (undisturbed_examine s _)
  | usable => exact .undisturbed (undisturbed_lend s _ _)
  | unusable => exact .undisturbed (undisturbed_setGet s _ _)
  | discarded closed =>
    exact (Clears.noteClosed s _ closed).trans (.undisturbed (undisturbed_examine _ _))
  | opened => exact .same rfl rfl rfl
  | refused => exact .undisturbed (undisturbed_fail s _ _)
  | expired => exact .undisturbed (undisturbed_fail s _ _)
  | cancelled => exact .undisturbed (undisturbed_leave s _)
  | givenBack => exact .giveBack watched _ _ _ _
  | @retired connection closed =>
    have ended : Clears s { s with closings := s.closings.erase connection } := .same rfl rfl rfl
    exact ended.trans (.noteClosed _ connection closed)
  | warmUp =>
    obtain ⟨_, eq⟩ := warm_eq s _
    rw [eq]
    exact .same rfl rfl rfl
  | @warmed call connection =>
    obtain ⟨_, eq⟩ := warm_eq ((s.noteOpened connection).putWarm connection) call
    rw [eq]
    exact .same rfl rfl rfl
  | warmFailed => exact .same rfl rfl rfl
  | closeIdle new => exact .drain new false
  | @close call new =>
    have told : Clears s { s with shut := true } := .same rfl rfl rfl
    exact told.trans (.drain (s := { s with shut := true }) new true)
  | @drained call connection rest wholePool closed found =>
    cases (show closed = true from closes)
    have found' := (noteClosed_closer? s call connection true).trans found
    exact (Clears.noteClosed s connection true).trans
      (.drainNext (rest_of_found found' rfl List.mem_cons_self) (drainsPool_of_found found'))
  | @finished call connection rest closed found =>
    cases (show closed = true from closes)
    have found' := (noteClosed_closer? s call connection true).trans found
    exact (Clears.noteClosed s connection true).trans
      (.finishNext (rest_of_found found' rfl List.mem_cons_self)
        fun drains => nomatch drainsPool_of_found found' drains)
  | @joined call connection rest found ended =>
    have closed := (watched _ (departing_of_closer? found)).resolve_left ended
    exact .finishNext (rest_of_found found rfl closed)
      fun drains => nomatch drainsPool_of_found found drains

theorem clears_after {s : State} (watched : Watched s) {events : List Event}
    (close : ∀ event ∈ events, event.closes = true) : Clears s (s.after events) := by
  refine (after_keeps_each (fun t => Watched t ∧ Clears s t) ?_ ⟨watched, ?_⟩ close).2
  · rintro t event closes ⟨watched, clears⟩
    exact ⟨(follows_step t event closes).watched watched, clears.trans (clears_step watched closes)⟩
  · exact .same rfl rfl rfl

/-! ### The end of a closing -/

/-- Some driver calls, all of which succeed, bring a closing call to its end. -/
def State.Ends (s : State) (call : Nat) : Prop :=
  ∃ events : List Event, (∀ event ∈ events, event.closes = true ∧ event.warms = false) ∧
    (s.after events).closer? call = none

section Ends

variable {s : State} {call connection : Nat}

theorem ends_of_step (event : Event) (closes : event.closes = true) (untold : event.warms = false)
    (ends : (s.step event).Ends call) : s.Ends call := by
  obtain ⟨events, allowed, ended⟩ := ends
  exact ⟨event :: events, List.forall_mem_cons.mpr ⟨⟨closes, untold⟩, allowed⟩, ended⟩

theorem ends_of_draining {rest : List Nat} {wholePool : Bool}
    (found : s.closer? call = some (.draining connection rest wholePool))
    (next : ∀ t : State, (t.drainNext call wholePool rest).Ends call) : s.Ends call := by
  refine ends_of_step (.drained call true) rfl rfl ?_
  simp only [State.step, found]
  exact next _

/-- The task that a call waits for ends, and then the call goes on. -/
theorem ends_of_closing {rest : List Retiring}
    (found : s.closer? call = some (.finishing (.closing connection) rest))
    (next : ∀ t : State, (t.finishNext call rest).Ends call) : s.Ends call := by
  -- Nothing says here that a connection has one task only, so each task that ends is counted.
  induction number : s.closings.count connection generalizing s with
  | zero =>
    have ended : connection ∉ s.closings := List.count_eq_zero.mp number
    refine ends_of_step (.joined call) rfl rfl ?_
    simpa [State.step, found, ended] using next s
  | succ n ih =>
    have closing : connection ∈ s.closings := List.count_pos_iff.mp (by omega)
    have step : s.step (.retired connection true) =
        { s with closings := s.closings.erase connection }.noteClosed connection true := by
      simp [State.step, closing]
    refine ends_of_step (.retired connection true) rfl rfl ?_
    rw [step]
    refine ih found ?_
    change (s.closings.erase connection).count connection = n
    rw [List.count_erase_self, number, Nat.add_sub_cancel]

theorem ends_of_finishing {head : Retiring} {rest : List Retiring}
    (found : s.closer? call = some (.finishing head rest))
    (next : ∀ t : State, (t.finishNext call rest).Ends call) : s.Ends call := by
  cases head with
  | closing connection => exact ends_of_closing found next
  | pending connection =>
    refine ends_of_step (.drained call true) rfl rfl ?_
    simp only [State.step, found]
    exact next _

theorem ends_finishNext (rest : List Retiring) (s : State) : (s.finishNext call rest).Ends call := by
  induction rest generalizing s with
  | nil => exact ⟨[], nofun, closer?_setCloser_self s call none⟩
  | cons head rest ih => exact ends_of_finishing (closer?_setCloser_self s call _) ih

theorem ends_drainNext (wholePool : Bool) (rest : List Nat) (s : State) :
    (s.drainNext call wholePool rest).Ends call := by
  induction rest generalizing s with
  | cons connection rest ih => exact ends_of_draining (closer?_setCloser_self s call _) ih
  | nil =>
    cases wholePool with
    | false => exact ⟨[], nofun, closer?_setCloser_self s call none⟩
    | true => exact ends_finishNext s.retiring _

/-- A closing call waits for driver calls and tasks only, each of which it waits for once. -/
theorem ends (s : State) (call : Nat) : s.Ends call := by
  cases found : s.closer? call with
  | none => exact ⟨[], nofun, found⟩
  | some closer =>
    cases closer with
    | draining connection rest wholePool => exact ends_of_draining found (ends_drainNext wholePool rest)
    | finishing head rest => exact ends_of_finishing found (ends_finishNext rest)

end Ends

end SqlProbe.Pool
