import SqlProbe.Proofs.Pool.Turns

/-!
# The times that a pool notes

A pool notes of each idle connection when it was opened and since when it is idle, and looks at these
times only where the connection stands in front. That the front is enough rests on the notes being
true. Here the true times are read off the history of the pool, as the last time at which something
came to hold, and the notes are shown to agree with them after every list of events. So the idle
connections stand in the order in which they became idle, and if the first of them may be lent, no
other has been idle for too long.
-/

namespace SqlProbe.Pool

namespace State

/-! ### The history -/

/-- The time of an event that makes something hold which did not. -/
def comes (holds : State → Bool) (s : State) (event : Event) : Option Nat :=
  if !holds s && holds (s.step event) then some s.now else none

/-- When something last came to hold, in the course of some events. -/
def lastCame (holds : State → Bool) : State → List Event → Option Nat
  | _, [] => none
  | s, event :: events => ((s.step event).lastCame holds events).or (s.comes holds event)

/-- The connection has been opened. -/
def hasOpened (connection : Nat) (s : State) : Bool := s.opened.contains connection

/-- The connection is idle. -/
def isIdle (connection : Nat) (s : State) : Bool :=
  s.idle.any fun entry => entry.connection = connection

/-- When a connection was opened, in the course of some events. -/
def openedAt (s : State) (events : List Event) (connection : Nat) : Option Nat :=
  s.lastCame (hasOpened connection) events

/-- When a connection last became idle, in the course of some events. -/
def idleFrom (s : State) (events : List Event) (connection : Nat) : Option Nat :=
  s.lastCame (isIdle connection) events

/-- When something last came to hold of each connection, after one more event. -/
def thenCame (s : State) (event : Event) (holds : Nat → State → Bool) (times : Nat → Option Nat) :
    Nat → Option Nat :=
  fun connection => (s.comes (holds connection) event).or (times connection)

/-! ### What borrowers get -/

/-- The event hands a connection to a borrower. -/
def HandsOut (s : State) (event : Event) (call connection : Nat) : Prop :=
  (s.step event).results = (call, .ok connection) :: s.results

/-- The event takes an idle connection for a borrower, which gets it at once, or after a check. -/
def Takes (s : State) (event : Event) (connection : Nat) : Prop :=
  s.isIdle connection = true ∧ ∃ createdAt, InHand (s.step event) connection createdAt

end State

section History

variable {holds : Nat → State → Bool} {times : Nat → Option Nat} {s : State} {event : Event}
  {connection : Nat}

theorem thenCame_eq (before : holds connection s = true ∨ holds connection (s.step event) = false) :
    s.thenCame event holds times connection = times connection := by
  have still : s.comes (holds connection) event = none := by
    rw [State.comes]
    rcases before with before | after
    · rw [before]
      rfl
    · rw [after, Bool.and_false]
      rfl
  rw [State.thenCame, still, Option.none_or]

theorem thenCame_eq_now (before : holds connection s = false)
    (after : holds connection (s.step event) = true) :
    s.thenCame event holds times connection = some s.now := by
  rw [State.thenCame, State.comes, before, after]
  rfl

/-- What is known after one more event has come to hold by it, or was known before. -/
theorem thenCame_cases {time : Nat} (known : s.thenCame event holds times connection = some time) :
    (holds connection (s.step event) = true ∧ time = s.now) ∨ times connection = some time := by
  rw [State.thenCame, State.comes] at known
  split at known
  · next comes => exact .inl ⟨(Bool.and_eq_true_iff.mp comes).2, (Option.some.inj known).symm⟩
  · exact .inr known

theorem hasOpened_iff : s.hasOpened connection = true ↔ connection ∈ s.opened :=
  List.contains_iff_mem

theorem isIdle_iff : s.isIdle connection = true ↔ ∃ entry ∈ s.idle, entry.connection = connection := by
  simp [State.isIdle]

theorem isIdle_of_mem {entry : Idle} (member : entry ∈ s.idle) :
    s.isIdle entry.connection = true :=
  isIdle_iff.mpr ⟨entry, member, rfl⟩

/-- A connection that a borrower has in hand or that is about to be opened is not idle. -/
theorem isIdle_eq_false (custody : Custody s)
    (elsewhere : (∃ createdAt, InHand s connection createdAt) ∨ connection ∉ s.opened) :
    s.isIdle connection = false := by
  refine Bool.eq_false_iff.mpr fun idle => ?_
  obtain ⟨entry, member, rfl⟩ := isIdle_iff.mp idle
  rcases elsewhere with ⟨_, inHand⟩ | fresh
  · exact custody.idle_ne_inHand member inHand rfl
  · exact fresh (custody.opened_of_idle member)

/-- A connection that is taken for a borrower stood in front, and was neither too old nor overdue. -/
theorem taken_of_takes (custody : Custody s) (takes : s.Takes event connection) :
    ∃ entry, Taken s (s.step event) entry ∧ entry.connection = connection := by
  obtain ⟨idle, createdAt, inHand⟩ := takes
  rcases (step_course custody event).inHand inHand with before | ⟨fresh, -⟩ | ⟨_, taken⟩
  · rw [isIdle_eq_false custody (.inl ⟨_, before⟩)] at idle
    contradiction
  · rw [isIdle_eq_false custody (.inr fresh)] at idle
    contradiction
  · exact ⟨_, taken, rfl⟩

end History

/-! ### True notes -/

/-- What a pool notes of an idle connection is true: it was opened and became idle at these times, in
this order. -/
structure Noted (s : State) (openedAt idleFrom : Nat → Option Nat) (entry : Idle) : Prop where
  opened : openedAt entry.connection = some entry.createdAt
  idle : idleFrom entry.connection = some entry.idleSince
  after : entry.createdAt ≤ entry.idleSince
  past : entry.idleSince ≤ s.now

/-- The idle connections of a pool, whose history is known, stand in order. -/
structure InOrder (s : State) (openedAt idleFrom : Nat → Option Nat) : Prop where
  /-- From the front to the end, none has been idle for longer than those before it. -/
  ordered : s.idle.Pairwise fun former latter => former.idleSince ≤ latter.idleSince
  noted : ∀ entry ∈ s.idle, Noted s openedAt idleFrom entry
  /-- What borrowers have, or may still get, became idle before all that is idle, if it ever did. -/
  overtaken : ∀ connection createdAt since, InHand s connection createdAt →
    idleFrom connection = some since → ∀ entry ∈ s.idle, since ≤ entry.idleSince

/-- Beside the idle connections, those that borrowers have in hand are known with their times. -/
structure Dated (s : State) (openedAt idleFrom : Nat → Option Nat) : Prop
    extends InOrder s openedAt idleFrom where
  custody : Custody s
  inHand : ∀ connection createdAt, InHand s connection createdAt →
    openedAt connection = some createdAt ∧ createdAt ≤ s.now
  past : ∀ connection since, idleFrom connection = some since →
    connection ∈ s.opened ∧ since ≤ s.now

theorem opened_subset (custody : Custody s) (event : Event) : s.opened ⊆ (s.step event).opened := by
  obtain ⟨added, removed, account⟩ := step_account custody.distinct event
  rw [account.opened]
  exact List.subset_append_right _ _

namespace Dated

variable {s : State} {openedAt idleFrom : Nat → Option Nat} {event : Event} {entry : Idle}
  {connection createdAt since : Nat}

theorem ofConfig (config : Config) (ownCheck : Bool) :
    Dated (State.ofConfig config ownCheck) (fun _ => none) (fun _ => none) where
  ordered := .nil
  noted := fun _ member => nomatch member
  overtaken := fun _ _ _ _ never => nomatch never
  custody := .ofConfig config ownCheck
  inHand := fun _ _ inHand => by cases inHand <;> contradiction
  past := fun _ _ never => nomatch never

/-- A connection that a borrower has in hand, or that is opened by the event, is known with the time
at which it was opened. -/
theorem opened_step (dated : Dated s openedAt idleFrom)
    (source : InHand s connection createdAt ∨ connection ∉ s.opened ∧ createdAt = s.now)
    (opened : connection ∈ (s.step event).opened) :
    s.thenCame event State.hasOpened openedAt connection = some createdAt ∧ createdAt ≤ s.now := by
  rcases source with inHand | ⟨fresh, rfl⟩
  · rw [thenCame_eq (.inl (hasOpened_iff.mpr (dated.custody.opened_of_inHand inHand)))]
    exact dated.inHand _ _ inHand
  · have unopened : s.hasOpened connection = false :=
      Bool.eq_false_iff.mpr (mt hasOpened_iff.mp fresh)
    exact ⟨thenCame_eq_now unopened (hasOpened_iff.mpr opened), Nat.le_refl _⟩

/-- What is noted of a connection that remains idle stays true. -/
theorem noted_old (dated : Dated s openedAt idleFrom) (event : Event) (member : entry ∈ s.idle) :
    Noted (s.step event) (s.thenCame event State.hasOpened openedAt)
      (s.thenCame event State.isIdle idleFrom) entry where
  opened := by
    rw [thenCame_eq (.inl (hasOpened_iff.mpr (dated.custody.opened_of_idle member)))]
    exact (dated.noted entry member).opened
  idle := by
    rw [thenCame_eq (.inl (isIdle_of_mem member))]
    exact (dated.noted entry member).idle
  after := (dated.noted entry member).after
  past := Nat.le_trans (dated.noted entry member).past (step_course dated.custody event).now

/-- What is noted of a connection that becomes idle is true. -/
theorem noted_new (dated : Dated s openedAt idleFrom)
    (source : InHand s connection createdAt ∨ connection ∉ s.opened ∧ createdAt = s.now)
    (member : ⟨connection, createdAt, s.now⟩ ∈ (s.step event).idle) :
    Noted (s.step event) (s.thenCame event State.hasOpened openedAt)
      (s.thenCame event State.isIdle idleFrom) ⟨connection, createdAt, s.now⟩ := by
  obtain ⟨opened, after⟩ :=
    dated.opened_step source ((dated.custody.step event).opened_of_idle member)
  have apart := isIdle_eq_false dated.custody (source.imp (⟨createdAt, ·⟩) And.left)
  exact ⟨opened, thenCame_eq_now apart (isIdle_of_mem member), after,
    (step_course dated.custody event).now⟩

theorem noted_step (dated : Dated s openedAt idleFrom) (member : entry ∈ (s.step event).idle) :
    Noted (s.step event) (s.thenCame event State.hasOpened openedAt)
      (s.thenCame event State.isIdle idleFrom) entry := by
  rcases (step_course dated.custody event).idle with fewer | ⟨connection, createdAt, eq, source⟩
  · exact dated.noted_old event (fewer.subset member)
  · have joined := member
    rw [eq] at joined
    rcases List.mem_append.mp joined with before | new
    · exact dated.noted_old event before
    · rw [List.mem_singleton.mp new] at member ⊢
      exact dated.noted_new source member

theorem ordered_step (dated : Dated s openedAt idleFrom) : (s.step event).idle.Pairwise
    fun former latter => former.idleSince ≤ latter.idleSince := by
  rcases (step_course dated.custody event).idle with fewer | ⟨connection, createdAt, eq, -⟩
  · exact dated.ordered.sublist fewer
  · rw [eq]
    refine List.pairwise_append.mpr ⟨dated.ordered, List.pairwise_singleton _ _, ?_⟩
    intro former before latter last
    rw [List.mem_singleton.mp last]
    exact (dated.noted former before).past

theorem inHand_step (dated : Dated s openedAt idleFrom)
    (inHand : InHand (s.step event) connection createdAt) :
    s.thenCame event State.hasOpened openedAt connection = some createdAt ∧
      createdAt ≤ (s.step event).now := by
  have course := step_course dated.custody event
  have opened := (dated.custody.step event).opened_of_inHand inHand
  have sourced (source : InHand s connection createdAt ∨ connection ∉ s.opened ∧ createdAt = s.now) :
      s.thenCame event State.hasOpened openedAt connection = some createdAt ∧
        createdAt ≤ (s.step event).now :=
    (dated.opened_step source opened).imp_right fun past => Nat.le_trans past course.now
  rcases course.inHand inHand with before | fresh | ⟨_, taken⟩
  · exact sourced (.inl before)
  · exact sourced (.inr fresh)
  · have noted := dated.noted_old event (taken.idle ▸ List.mem_cons_self)
    exact ⟨noted.opened, Nat.le_trans noted.after noted.past⟩

theorem past_step (dated : Dated s openedAt idleFrom)
    (known : s.thenCame event State.isIdle idleFrom connection = some since) :
    connection ∈ (s.step event).opened ∧ since ≤ (s.step event).now := by
  have now := (step_course dated.custody event).now
  rcases thenCame_cases known with ⟨idle, rfl⟩ | before
  · obtain ⟨entry, member, rfl⟩ := isIdle_iff.mp idle
    exact ⟨(dated.custody.step event).opened_of_idle member, now⟩
  · obtain ⟨opened, past⟩ := dated.past _ _ before
    exact ⟨opened_subset dated.custody event opened, Nat.le_trans past now⟩

/-- What borrowers have in hand stays ahead of what is idle: others join the idle ones later, and what is
taken now stood in front of those that are left. -/
theorem overtaken_step (dated : Dated s openedAt idleFrom)
    (inHand : InHand (s.step event) connection createdAt)
    (known : s.thenCame event State.isIdle idleFrom connection = some since)
    (member : entry ∈ (s.step event).idle) : since ≤ entry.idleSince := by
  have course := step_course dated.custody event
  -- It is not idle after the event, so it has not become idle by it.
  rw [thenCame_eq (.inr (isIdle_eq_false (dated.custody.step event) (.inl ⟨_, inHand⟩)))] at known
  obtain ⟨opened, past⟩ := dated.past _ _ known
  rcases course.inHand inHand with before | ⟨fresh, -⟩ | ⟨idleSince, taken⟩
  · rcases course.idle with fewer | ⟨_, _, eq, -⟩
    · exact dated.overtaken _ _ _ before known entry (fewer.subset member)
    · rw [eq] at member
      rcases List.mem_append.mp member with old | new
      · exact dated.overtaken _ _ _ before known entry old
      · rw [List.mem_singleton.mp new]
        exact past
  · contradiction
  · have noted := dated.noted _ (taken.idle ▸ List.mem_cons_self)
    obtain rfl : idleSince = since := Option.some.inj (noted.idle.symm.trans known)
    have ordered := dated.ordered
    rw [taken.idle] at ordered
    exact List.rel_of_pairwise_cons ordered member

/-- One more event, and the notes are true of the longer history. -/
theorem step (dated : Dated s openedAt idleFrom) (event : Event) : Dated (s.step event)
    (s.thenCame event State.hasOpened openedAt) (s.thenCame event State.isIdle idleFrom) where
  ordered := dated.ordered_step
  noted := fun _ => dated.noted_step
  overtaken := fun _ _ _ inHand known _ => dated.overtaken_step inHand known
  custody := dated.custody.step event
  inHand := fun _ _ => dated.inHand_step
  past := fun _ _ => dated.past_step

theorem after (dated : Dated s openedAt idleFrom) (events : List Event) : Dated (s.after events)
    (fun connection => (s.openedAt events connection).or (openedAt connection))
    (fun connection => (s.idleFrom events connection).or (idleFrom connection)) := by
  induction events generalizing s openedAt idleFrom with
  | nil => exact dated
  | cons event events ih =>
    have later := ih (dated.step event)
    simp only [State.thenCame, ← Option.or_assoc] at later
    exact later

end Dated

theorem dated_after (config : Config) (ownCheck : Bool) (past : List Event) :
    let first := State.ofConfig config ownCheck
    Dated (first.after past) (first.openedAt past) (first.idleFrom past) := by
  have dated := (Dated.ofConfig config ownCheck).after past
  simpa only [Option.or_none] using dated

/-! ### Reuse -/

section Reuse

variable {s : State} {openedAt idleFrom : Nat → Option Nat} {event : Event} {call connection : Nat}

/-- If the first idle connection may be lent, those behind it have not been idle for too long. -/
theorem InOrder.left_in_time (inOrder : InOrder s openedAt idleFrom) {t : State} {entry : Idle}
    (taken : Taken s t entry) : ∀ left ∈ t.idle, s.now - left.idleSince ≤ s.config.idleTimeout := by
  intro left member
  have ordered := inOrder.ordered
  rw [taken.idle] at ordered
  have later := List.rel_of_pairwise_cons ordered member
  have early := of_decide_eq_false taken.early
  omega

/-- A connection that was open before and is handed out has just been taken, or has been checked. -/
theorem takes_of_handsOut (custody : Custody s) (hands : s.HandsOut event call connection)
    (opened : connection ∈ s.opened) : s.Takes event connection ∨
      ∃ createdAt, s.get? call = some (.validating connection createdAt) := by
  rcases (step_course custody event).handsOut hands with fresh | checked | ⟨entry, taken, rfl, -, inHand⟩
  · contradiction
  · exact .inr checked
  · exact .inl ⟨isIdle_of_mem (taken.idle ▸ List.mem_cons_self), _, inHand⟩

end Reuse

/-- However the calls interleave and whatever the factory checks, what a pool notes of its idle
connections is true, and they stand in the order in which they became idle. So when one of them is
taken for a borrower, none of those that are left has been idle for longer than is allowed. Whoever
is handed a connection that was open before has taken it in the same instant, unless the factory's own
check has come in between. Without such a check, therefore, nothing is left behind for too long
whenever a connection is used again. -/
theorem idle_in_order (config : Config) (ownCheck : Bool) (past : List Event) (event : Event) :
    let first := State.ofConfig config ownCheck
    let s := first.after past
    InOrder s (first.openedAt past) (first.idleFrom past) ∧
      (∀ connection, s.Takes event connection →
        ∀ left ∈ (s.step event).idle, s.now - left.idleSince ≤ config.idleTimeout) ∧
      (∀ call connection, s.HandsOut event call connection → connection ∈ s.opened →
        s.Takes event connection ∨
          ownCheck = true ∧ ∃ createdAt, s.get? call = some (.validating connection createdAt)) ∧
      (ownCheck = false → ∀ call connection, s.HandsOut event call connection →
        connection ∈ s.opened →
          ∀ left ∈ (s.step event).idle, s.now - left.idleSince ≤ config.idleTimeout) := by
  intro first s
  have dated : Dated s (first.openedAt past) (first.idleFrom past) := dated_after config ownCheck past
  have configured : s.config = config := after_config first past
  have inTime (connection : Nat) (takes : s.Takes event connection) :
      ∀ left ∈ (s.step event).idle, s.now - left.idleSince ≤ config.idleTimeout := by
    obtain ⟨entry, taken, -⟩ := taken_of_takes dated.custody takes
    rw [← configured]
    exact dated.left_in_time taken
  have takesOrChecked (call connection : Nat) (hands : s.HandsOut event call connection)
      (opened : connection ∈ s.opened) : s.Takes event connection ∨
        ownCheck = true ∧ ∃ createdAt, s.get? call = some (.validating connection createdAt) := by
    rcases takes_of_handsOut dated.custody hands opened with takes | ⟨createdAt, checked⟩
    · exact .inl takes
    · refine .inr ⟨?_, createdAt, checked⟩
      cases ownCheck with
      | true => rfl
      | false => exact absurd checked ((Plain.after config past).ne_validating _ _)
  refine ⟨dated.toInOrder, inTime, takesOrChecked, ?_⟩
  intro plain call connection hands opened
  rcases takesOrChecked call connection hands opened with takes | ⟨own, -⟩
  · exact inTime connection takes
  · rw [plain] at own
    contradiction

/-- A check of the factory's own lasts for a millisecond, and the connection behind the one that is
checked, which has been idle for just as long as is allowed, is overdue when the first is handed
out. -/
theorem overdue_behind_checked :
    ¬ ∀ (config : Config) (ownCheck : Bool) (past : List Event) (event : Event),
      let s := (State.ofConfig config ownCheck).after past
      ∀ call connection, s.HandsOut event call connection → connection ∈ s.opened →
        ∀ left ∈ (s.step event).idle, s.now - left.idleSince ≤ config.idleTimeout := by
  intro always
  have early := always {} true [.get 0, .get 1, .opened 0 1, .opened 1 2, .giveBack 1 false,
    .giveBack 2 false, .tick 600000, .get 2, .tick 1] (.validated 2 true) 2 1 rfl (by decide)
    ⟨2, 0, 0⟩ (by decide)
  revert early
  decide

example :
    let first := State.ofConfig { maxSize := 2 } false
    let past : List Event := [.get 0, .opened 0 1, .tick 3, .get 1, .opened 1 2, .tick 4,
      .giveBack 2 false, .tick 1, .giveBack 1 true]
    (first.after past).idle = [⟨2, 3, 7⟩, ⟨1, 0, 8⟩] ∧
      first.openedAt past 1 = some 0 ∧ first.idleFrom past 1 = some 8 := by decide

end SqlProbe.Pool
