import SqlProbe.Proofs.Pool.Holdings

/-!
# Which connections a pool loses

A connection that a pool has opened is looked after until it is closed, with one exception: while a
borrower examines an idle connection, waiting for the factory's word on it or for it to be closed,
nobody else knows the connection. If the borrower's patience ends then, or the borrower goes away,
the connection stays open and is nowhere. These are all the connections that are lost as long as
every closing that runs to its end succeeds.
-/

namespace SqlProbe.Pool

/-- The connections that borrowers had in hand when they had waited for too long or went away. -/
def State.abandoned : State → List Event → List Nat
  | _, [] => []
  | s, event :: events => s.abandons event ++ (s.step event).abandoned events

/-! ### Closing in the background -/

/-- Every connection on its way out that a task of its own is to close is being closed, or is
closed. -/
def Watched (s : State) : Prop :=
  ∀ connection, .closing connection ∈ s.departing → connection ∈ s.closings ∨ connection ∈ s.closed

/-- What starts a task for each new connection on its way out, and ends one only with its connection
closed. -/
structure Follows (s t : State) : Prop where
  departing : ∀ connection, .closing connection ∈ t.departing →
    .closing connection ∈ s.departing ∨ connection ∈ t.closings ∨ connection ∈ t.closed
  closings : ∀ connection ∈ s.closings, connection ∈ t.closings ∨ connection ∈ t.closed
  closed : ∀ connection ∈ s.closed, connection ∈ t.closed

namespace Follows

variable {s t u : State}

theorem watched (follows : Follows s t) (watched : Watched s) : Watched t := by
  intro connection member
  rcases follows.departing connection member with before | now
  · rcases watched connection before with closing | closed
    · exact follows.closings connection closing
    · exact .inr (follows.closed connection closed)
  · exact now

theorem trans (first : Follows s t) (second : Follows t u) : Follows s u := by
  have later (connection : Nat) (now : connection ∈ t.closings ∨ connection ∈ t.closed) :
      connection ∈ u.closings ∨ connection ∈ u.closed :=
    now.elim (second.closings connection) fun closed => .inr (second.closed connection closed)
  refine ⟨?_, ?_, ?_⟩
  · intro connection member
    rcases second.departing connection member with before | now
    · exact (first.departing connection before).imp_right (later connection)
    · exact .inr now
  · intro connection member
    exact later connection (first.closings connection member)
  · intro connection member
    exact second.closed connection (first.closed connection member)

/-- What adds nothing to the connections on their way out. -/
theorem fewer (departing : ∀ entry ∈ t.departing, entry ∈ s.departing)
    (closings : t.closings = s.closings) (closed : t.closed = s.closed) : Follows s t where
  departing := fun _ member => .inl (departing _ member)
  closings := fun _ member => .inl (closings ▸ member)
  closed := fun _ member => closed ▸ member

theorem undisturbed (undisturbed : Undisturbed s t) : Follows s t := by
  refine .fewer ?_ undisturbed.closings undisturbed.closed
  intro entry member
  rwa [State.departing, undisturbed.retiring, undisturbed.closers] at member

theorem noteClosed (s : State) (connection : Nat) (closed : Bool) :
    Follows s (s.noteClosed connection closed) := by
  rw [noteClosed_eq]
  refine ⟨fun _ member => .inl member, fun _ member => .inl member, ?_⟩
  intro other member
  cases closed with
  | false => exact member
  | true => exact List.mem_cons_of_mem _ member

theorem retire (s : State) (connection : Nat) (outside : Bool) :
    Follows s (s.retire connection outside) := by
  have unfinished {entry : Retiring} {last : Retiring} (member : entry ∈
      (s.retiring.filter (Retiring.isUnfinished s.closings) ++ [last]) ++
        s.closers.flatMap fun entry => entry.2.departing) :
      entry ∈ s.departing ∨ entry = last := by
    rw [State.departing]
    simp only [List.mem_append, List.mem_singleton, List.mem_filter] at member ⊢
    rcases member with (⟨before, _⟩ | last) | before
    · exact .inl (.inl before)
    · exact .inr last
    · exact .inl (.inr before)
  cases outside with
  | true =>
    refine ⟨?_, fun _ member => .inl member, fun _ member => member⟩
    intro other member
    rcases unfinished member with before | last
    · exact .inl before
    · contradiction
  | false =>
    refine ⟨?_, fun _ member => .inl (List.mem_append_left _ member), fun _ member => member⟩
    intro other member
    rcases unfinished member with before | last
    · exact .inl before
    · cases last
      exact .inr (.inl (List.mem_append_right _ (List.mem_singleton_self _)))

theorem giveBack (s : State) (loans : List Loan) (active : Nat) (loan : Loan) (outside : Bool) :
    Follows s ({ s with loans, active }.takeBack loan outside).release := by
  rcases giveBack_cases s loans active loan outside with still | ⟨t, before, after⟩
  · exact .undisturbed still
  · exact (Follows.undisturbed before).trans ((retire t loan.connection outside).trans
      (.undisturbed after))

end Follows

section Closing

variable {s : State} {call : Nat} {entry : Retiring}

theorem departing_setCloser {new : Option Closer}
    (member : entry ∈ (s.setCloser call new).departing) :
    entry ∈ s.departing ∨ ∃ closer ∈ new, entry ∈ closer.departing := by
  rcases List.mem_append.mp member with retiring | taken
  · exact .inl (List.mem_append_left _ retiring)
  · obtain ⟨⟨other, closer⟩, among, departs⟩ := List.mem_flatMap.mp taken
    rcases List.mem_append.mp among with before | now
    · exact .inl (List.mem_append_right _
        (List.mem_flatMap.mpr ⟨_, List.mem_of_mem_filter before, departs⟩))
    · cases new with
      | none => contradiction
      | some closer =>
        cases List.mem_singleton.mp now
        exact .inr ⟨closer, rfl, departs⟩

theorem departing_finishNext {rest : List Retiring}
    (member : entry ∈ (s.finishNext call rest).departing) : entry ∈ s.departing ∨ entry ∈ rest := by
  cases rest with
  | nil =>
    rcases departing_setCloser member with before | ⟨_, none, _⟩
    · exact .inl before
    · contradiction
  | cons head rest =>
    rcases departing_setCloser member with before | ⟨_, ⟨⟩, among⟩
    · exact .inl before
    · exact .inr among

/-- The whole pool's closing takes over what is on its way out, and adds nothing to it. -/
theorem departing_drainNext {wholePool : Bool} {rest : List Nat}
    (member : entry ∈ (s.drainNext call wholePool rest).departing) : entry ∈ s.departing := by
  cases rest with
  | cons =>
    rcases departing_setCloser member with before | ⟨_, ⟨⟩, among⟩
    · exact before
    · contradiction
  | nil =>
    cases wholePool with
    | false =>
      rcases departing_setCloser member with before | ⟨_, none, _⟩
      · exact before
      · contradiction
    | true =>
      rcases departing_finishNext member with before | retiring
      · exact List.mem_append_right _ before
      · exact List.mem_append_left _ retiring

theorem departing_of_rest {head : Retiring} {rest : List Retiring}
    (found : s.closer? call = some (.finishing head rest)) (member : entry ∈ rest) :
    entry ∈ s.departing := by
  refine List.mem_append_right _ (List.mem_flatMap.mpr ⟨_, mem_of_lookup found, ?_⟩)
  exact List.mem_cons_of_mem _ member

theorem follows_finishNext {head : Retiring} {rest : List Retiring}
    (found : s.closer? call = some (.finishing head rest)) :
    Follows s (s.finishNext call rest) := by
  obtain ⟨_, eq⟩ := finishNext_eq s call rest
  refine .fewer ?_ (by rw [eq]) (by rw [eq])
  intro entry member
  exact (departing_finishNext member).elim id (departing_of_rest found)

theorem follows_drainNext (s : State) (call : Nat) (wholePool : Bool) (rest : List Nat) :
    Follows s (s.drainNext call wholePool rest) := by
  obtain ⟨_, _, eq⟩ := drainNext_eq s call wholePool rest
  exact .fewer (fun _ member => departing_drainNext member) (by rw [eq]) (by rw [eq])

theorem follows_drain (s : State) (call : Nat) (wholePool : Bool) :
    Follows s (s.drain call wholePool) := by
  have cleared : Follows s { s with idle := [] } := .fewer (fun _ member => member) rfl rfl
  exact cleared.trans (follows_drainNext _ call wholePool _)

theorem follows_step (s : State) (event : Event) (closes : event.closes = true) :
    Follows s (s.step event) := by
  have effect := step_effect s event
  generalize s.step event = t at effect ⊢
  cases effect with
  | nothing => exact .fewer (fun _ member => member) rfl rfl
  | tick => exact .fewer (fun _ member => member) rfl rfl
  | lose => exact .noteClosed s _ true
  | get => exact .undisturbed (undisturbed_startGet s _)
  | turnedAway => exact .undisturbed (undisturbed_fail s _ _)
  | turn => exact .undisturbed (undisturbed_examine s _)
  | usable => exact .undisturbed (undisturbed_lend s _ _)
  | unusable => exact .undisturbed (undisturbed_setGet s _ _)
  | discarded closed =>
    exact (Follows.noteClosed s _ closed).trans (.undisturbed (undisturbed_examine _ _))
  | opened => exact .fewer (fun _ member => member) rfl rfl
  | refused => exact .undisturbed (undisturbed_fail s _ _)
  | expired => exact .undisturbed (undisturbed_fail s _ _)
  | cancelled => exact .undisturbed (undisturbed_leave s _)
  | givenBack => exact .giveBack s _ _ _ _
  | @retired connection closed closing =>
    cases (show closed = true from closes)
    refine ⟨fun _ member => .inl member, ?_, fun _ member => List.mem_cons_of_mem _ member⟩
    intro other member
    by_cases same : other = connection
    · exact .inr (List.mem_cons.mpr (.inl same))
    · exact .inl ((List.mem_erase_of_ne same).mpr member)
  | warmUp =>
    obtain ⟨_, eq⟩ := warm_eq s _
    rw [eq]
    exact .fewer (fun _ member => member) rfl rfl
  | @warmed call connection =>
    obtain ⟨_, eq⟩ := warm_eq ((s.noteOpened connection).putWarm connection) call
    rw [eq]
    exact .fewer (fun _ member => member) rfl rfl
  | warmFailed => exact .fewer (fun _ member => member) rfl rfl
  | closeIdle => exact follows_drain s _ false
  | close =>
    have told : Follows s { s with shut := true } := .fewer (fun _ member => member) rfl rfl
    exact told.trans (follows_drain _ _ true)
  | drained closed => exact (Follows.noteClosed s _ closed).trans (follows_drainNext _ _ _ _)
  | @finished call connection rest closed found =>
    have found' := (noteClosed_closer? s call connection closed).trans found
    exact (Follows.noteClosed s connection closed).trans (follows_finishNext found')
  | joined found => exact follows_finishNext found

end Closing

theorem follows_after {s : State} {events : List Event}
    (close : ∀ event ∈ events, event.closes = true) : Follows s (s.after events) :=
  after_keeps_each (Follows s)
    (fun t event closes follows => follows.trans (follows_step t event closes))
    (.fewer (fun _ member => member) rfl rfl) close

/-! ### Losses -/

/-- A borrower that gives up with a connection in hand leaves, and nothing else happens. -/
theorem step_of_abandons {s : State} {event : Event} {connection : Nat}
    (member : connection ∈ s.abandons event) : ∃ call get, s.get? call = some get ∧
      connection ∈ get.connection?.toList ∧
      (s.step event = s.fail call s.config.timedOut ∨ s.step event = s.leave call) := by
  have taken {call : Nat} (member : connection ∈ ((s.get? call).bind Get.connection?).toList) :
      ∃ get, s.get? call = some get ∧ connection ∈ get.connection?.toList := by
    obtain ⟨get, found, taken⟩ := Option.bind_eq_some_iff.mp (Option.mem_toList.mp member)
    exact ⟨get, found, Option.mem_toList.mpr taken⟩
  cases event with
  | expire call =>
    obtain ⟨get, found, taken⟩ := taken member
    refine ⟨call, get, found, taken, .inl ?_⟩
    simp only [State.step, found]
    cases get with
    | queued => contradiction
    | granted => contradiction
    | validating => rfl
    | discarding => rfl
    | opening => contradiction
  | cancel call =>
    obtain ⟨get, found, taken⟩ := taken member
    exact ⟨call, get, found, taken, .inr rfl⟩
  | _ => contradiction

/-- The connections that have been opened: those that are closed, those that are looked after, and
those that are lost. -/
structure Accounted (s : State) (lost : List Nat) : Prop where
  custody : Custody s
  watched : Watched s
  known : ∀ connection ∈ lost, connection ∈ s.opened
  gone : ∀ connection ∈ lost, connection ∉ s.held
  rest : ∀ connection ∈ s.opened,
    connection ∈ s.closed ∨ connection ∈ s.held ∨ connection ∈ lost

namespace Accounted

variable {s : State} {lost : List Nat}

theorem ofConfig (config : Config) (ownCheck : Bool) :
    Accounted (State.ofConfig config ownCheck) [] where
  custody := Custody.ofConfig config ownCheck
  watched := fun _ member => nomatch member
  known := fun _ member => nomatch member
  gone := fun _ member => nomatch member
  rest := fun _ member => nomatch member

/-- What a borrower abandons was looked after, and is not any more. -/
theorem of_abandons (custody : Custody s) {event : Event} {connection : Nat}
    (member : connection ∈ s.abandons event) :
    connection ∈ s.held ∧ connection ∉ (s.step event).held := by
  obtain ⟨call, get, found, taken, left⟩ := step_of_abandons member
  have transfer : Transfer s (s.step event) [] get.connection?.toList := by
    rcases left with eq | eq
    · rw [eq]
      exact transfer_fail custody.distinct found _
    · rw [eq]
      exact transfer_leave custody.distinct found
  have perm : (get.connection?.toList ++ (s.step event).held).Perm s.held := by
    rw [List.perm_iff_count]
    intro other
    rw [List.count_append, transfer.held, List.count_nil, Nat.zero_add]
  refine ⟨perm.subset (List.mem_append_left _ taken), ?_⟩
  exact List.disjoint_of_nodup_append (perm.nodup_iff.mpr custody.once) taken

/-- A connection that has been looked after, or is new, is looked after, closed or lost. -/
theorem placed (accounted : Accounted s lost) {event : Event} (closes : event.closes = true)
    {added : Option Nat} {removed : List Nat}
    (account : Account s event (s.step event) added removed) {connection : Nat}
    (among : connection ∈ added.toList ++ s.held) : connection ∈ (s.step event).closed ∨
      connection ∈ (s.step event).held ∨ connection ∈ lost ++ s.abandons event := by
  rcases List.mem_append.mp ((Custody.perm account).symm.subset among) with gone | held
  · cases account.parted connection gone with
    | abandoned now => exact .inr (.inr (List.mem_append_right _ now))
    | closed closed => exact .inl closed
    | unclosed failed =>
      rw [closes] at failed
      contradiction
    | ended departing ceased =>
      rcases accounted.watched connection departing with closing | closed
      · contradiction
      · exact .inl ((follows_step s event closes).closed connection closed)
  · exact .inr (.inl held)

theorem step (accounted : Accounted s lost) (event : Event) (closes : event.closes = true) :
    Accounted (s.step event) (lost ++ s.abandons event) := by
  have custody := accounted.custody
  have follows := follows_step s event closes
  obtain ⟨added, removed, account⟩ := step_account custody.distinct event
  refine ⟨custody.step event, follows.watched accounted.watched, ?_, ?_, ?_⟩
  · intro connection member
    rw [account.opened]
    refine List.mem_append_right _ ?_
    rcases List.mem_append.mp member with before | now
    · exact accounted.known connection before
    · exact custody.known connection (of_abandons custody now).1
  · intro connection member
    rcases List.mem_append.mp member with before | now
    · intro held
      have among := (Custody.perm account).subset (List.mem_append_right _ held)
      rcases List.mem_append.mp among with new | held
      · exact account.fresh connection (Option.mem_toList.mp new) (accounted.known connection before)
      · exact accounted.gone connection before held
    · exact (of_abandons custody now).2
  · intro connection member
    rw [account.opened] at member
    rcases List.mem_append.mp member with new | opened
    · exact accounted.placed closes account (List.mem_append_left _ new)
    · rcases accounted.rest connection opened with closed | held | before
      · exact .inl (follows.closed connection closed)
      · exact accounted.placed closes account (List.mem_append_right _ held)
      · exact .inr (.inr (List.mem_append_left _ before))

theorem after (accounted : Accounted s lost) {events : List Event}
    (close : ∀ event ∈ events, event.closes = true) :
    Accounted (s.after events) (lost ++ s.abandoned events) := by
  induction events generalizing s lost with
  | nil =>
    rw [State.abandoned, List.append_nil]
    exact accounted
  | cons event events ih =>
    rw [State.abandoned, ← List.append_assoc]
    exact ih (accounted.step event (close event List.mem_cons_self))
      fun event member => close event (List.mem_cons_of_mem _ member)

end Accounted

/-- Where every closing that runs to its end succeeds, a connection that has been opened and is not
closed is looked after by nobody exactly if a borrower had it in hand, to have it checked or closed,
when it had waited for too long or went away. -/
theorem lost_iff_abandoned (config : Config) (ownCheck : Bool) {events : List Event}
    (close : ∀ event ∈ events, event.closes = true) {connection : Nat}
    (opened : connection ∈ ((State.ofConfig config ownCheck).after events).opened)
    (unclosed : connection ∉ ((State.ofConfig config ownCheck).after events).closed) :
    connection ∉ ((State.ofConfig config ownCheck).after events).held ↔
      connection ∈ (State.ofConfig config ownCheck).abandoned events := by
  have accounted := (Accounted.ofConfig config ownCheck).after close
  rw [List.nil_append] at accounted
  constructor
  · intro gone
    rcases accounted.rest connection opened with closed | held | lost
    · contradiction
    · contradiction
    · exact lost
  · exact accounted.gone connection

/-- A borrower goes away while the factory checks an idle connection for it. -/
theorem lost_iff_abandoned_validating :
    let events : List Event := [.get 0, .opened 0 7, .giveBack 7 false, .get 1, .cancel 1]
    let s := State.ofConfig {} true
    (∀ event ∈ events, event.closes = true) ∧ 7 ∈ (s.after events).opened ∧
      7 ∉ (s.after events).closed ∧ (7 ∉ (s.after events).held ↔ 7 ∈ s.abandoned events) :=
  have close : ∀ event ∈ ([.get 0, .opened 0 7, .giveBack 7 false, .get 1, .cancel 1] : List Event),
      event.closes = true := by decide
  ⟨close, by decide, by decide, lost_iff_abandoned {} true close (by decide) (by decide)⟩

/-- An idle connection is overdue, and the borrower that wants it closed has no patience left. Even
the closing of the pool, which comes to its end, leaves the connection open. -/
theorem overdue_connection_lost : ¬ ∀ (config : Config) (ownCheck : Bool) (events : List Event),
    (∀ event ∈ events, event.closes = true) →
    ∀ connection ∈ ((State.ofConfig config ownCheck).after events).opened,
      connection ∉ ((State.ofConfig config ownCheck).after events).closed →
      connection ∈ ((State.ofConfig config ownCheck).after events).held := by
  intro kept
  have held := kept
    { maxSize := 1, maxIdle := 1, acquireTimeout := 10, idleTimeout := 5, maxLifetime := none } false
    [.get 0, .opened 0 1, .giveBack 1 false, .tick 6, .get 1, .tick 10, .expire 1, .close 2]
    (by decide) 1 (by decide) (by decide)
  revert held
  decide

end SqlProbe.Pool
