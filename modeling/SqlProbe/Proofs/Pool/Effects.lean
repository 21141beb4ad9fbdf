import SqlProbe.Proofs.Pool.Calls

/-!
# What an event can do

Each event either does not fit the state and changes nothing, or it has one effect. The effects are
listed here once, with all that they require, so that a fact about runs of a pool is a fact about
this list: what holds of a fresh pool and is kept by every effect holds whenever anything can be
observed.
-/

namespace SqlProbe.Pool

/-- The effects of events on a state. -/
inductive Effect (s : State) : Event → State → Prop
  | nothing (event : Event) : Effect s event s
  | tick (span : Nat) : Effect s (.tick span) { s with now := s.now + span }
  | lose {connection : Nat} (opened : connection ∈ s.opened) :
      Effect s (.lose connection) (s.noteClosed connection true)
  | get {call : Nat} (new : s.get? call = none) : Effect s (.get call) (s.startGet call)
  | turnedAway {call : Nat} {get : Get} (found : s.get? call = some get)
      (waits : get = .queued ∨ get = .granted) (shut : s.shut = true) :
      Effect s (.resume call) (s.fail call poolClosed)
  | turn {call : Nat} (found : s.get? call = some .granted) (running : s.shut = false) :
      Effect s (.resume call) (s.examine call)
  | usable {call connection createdAt : Nat}
      (found : s.get? call = some (.validating connection createdAt)) :
      Effect s (.validated call true) (s.lend call ⟨connection, createdAt⟩)
  | unusable {call connection createdAt : Nat}
      (found : s.get? call = some (.validating connection createdAt)) :
      Effect s (.validated call false) (s.setGet call (.discarding connection))
  | discarded {call connection : Nat} (closed : Bool)
      (found : s.get? call = some (.discarding connection)) :
      Effect s (.discarded call closed) ((s.noteClosed connection closed).examine call)
  | opened {call connection : Nat} (found : s.get? call = some .opening)
      (fresh : connection ∉ s.opened) :
      Effect s (.opened call connection) ((s.noteOpened connection).lend call ⟨connection, s.now⟩)
  | refused {call : Nat} (cause : Error) (found : s.get? call = some .opening) :
      Effect s (.refused call cause) (s.fail call cause)
  | expired {call : Nat} {get : Get} (found : s.get? call = some get)
      (waits : get = .queued ∧ s.shut = false ∨ get.isEngaged = true) :
      Effect s (.expire call) (s.fail call s.config.timedOut)
  | cancelled (call : Nat) : Effect s (.cancel call) (s.leave call)
  | givenBack {connection : Nat} {loan : Loan} (outside : Bool) (lent : loan ∈ s.loans)
      (same : loan.connection = connection) :
      Effect s (.giveBack connection outside)
        (({ s with loans := s.loans.erase loan, active := s.active - 1 }.takeBack loan outside).release)
  | retired {connection : Nat} (closed : Bool) (closing : connection ∈ s.closings) :
      Effect s (.retired connection closed)
        ({ s with closings := s.closings.erase connection }.noteClosed connection closed)
  | warmUp {call : Nat} (new : call ∉ s.warmUps) : Effect s (.warmUp call) (s.warm call)
  | warmed {call connection : Nat} (warming : call ∈ s.warmUps) (fresh : connection ∉ s.opened) :
      Effect s (.warmed call connection) (((s.noteOpened connection).putWarm connection).warm call)
  | warmFailed (call : Nat) : Effect s (.warmFailed call) { s with warmUps := s.warmUps.erase call }
  | closeIdle {call : Nat} (new : s.closer? call = none) : Effect s (.closeIdle call) (s.drain call false)
  | close {call : Nat} (new : s.closer? call = none) :
      Effect s (.close call) ({ s with shut := true }.drain call true)
  | drained {call connection : Nat} {rest : List Nat} {wholePool : Bool} (closed : Bool)
      (found : s.closer? call = some (.draining connection rest wholePool)) :
      Effect s (.drained call closed) ((s.noteClosed connection closed).drainNext call wholePool rest)
  | finished {call connection : Nat} {rest : List Retiring} (closed : Bool)
      (found : s.closer? call = some (.finishing (.pending connection) rest)) :
      Effect s (.drained call closed) ((s.noteClosed connection closed).finishNext call rest)
  | joined {call connection : Nat} {rest : List Retiring}
      (found : s.closer? call = some (.finishing (.closing connection) rest))
      (ended : connection ∉ s.closings) : Effect s (.joined call) (s.finishNext call rest)

/-- Every step of a pool is one of these effects. -/
theorem step_effect (s : State) (event : Event) : Effect s event (s.step event) := by
  cases event with
  | tick span => exact .tick span
  | lose connection =>
    simp only [State.step]
    split
    · next opened => exact .lose (by simpa using opened)
    · exact .nothing _
  | get call =>
    simp only [State.step]
    split
    · exact .nothing _
    · next absent => exact .get (by simpa using absent)
  | resume call =>
    simp only [State.step]
    split
    · next found =>
      split
      · next shut => exact .turnedAway found (.inl rfl) shut
      · exact .nothing _
    · next found =>
      split
      · next shut => exact .turnedAway found (.inr rfl) shut
      · next running => exact .turn found (by simpa using running)
    · exact .nothing _
  | validated call usable =>
    simp only [State.step]
    split
    · next found =>
      cases usable with
      | true => exact .usable found
      | false => exact .unusable found
    · exact .nothing _
  | discarded call closed =>
    simp only [State.step]
    split
    · next found => exact .discarded closed found
    · exact .nothing _
  | opened call connection =>
    simp only [State.step]
    split
    · next found =>
      split
      · exact .nothing _
      · next fresh => exact .opened found (by simpa using fresh)
    · exact .nothing _
  | refused call cause =>
    simp only [State.step]
    split
    · next found => exact .refused cause found
    · exact .nothing _
  | expire call =>
    simp only [State.step]
    split
    · next found =>
      split
      · exact .nothing _
      · next running => exact .expired found (.inl ⟨rfl, by simpa using running⟩)
    · next found => exact .expired found (.inr rfl)
    · next found => exact .expired found (.inr rfl)
    · next found => exact .expired found (.inr rfl)
    · exact .nothing _
  | cancel call => exact .cancelled call
  | giveBack connection outside =>
    simp only [State.step, State.giveBack]
    split
    · exact .nothing _
    · next loan lent =>
      have same := List.find?_some lent
      exact .givenBack outside (List.mem_of_find?_eq_some lent) (by simpa using same)
  | retired connection closed =>
    simp only [State.step]
    split
    · next closing => exact .retired closed (by simpa using closing)
    · exact .nothing _
  | warmUp call =>
    simp only [State.step]
    split
    · exact .nothing _
    · next new => exact .warmUp (by simpa using new)
  | warmed call connection =>
    simp only [State.step]
    split
    · next warming =>
      simp only [Bool.and_eq_true, Bool.not_eq_true', List.contains_iff_mem] at warming
      exact .warmed warming.1 (by simpa using warming.2)
    · exact .nothing _
  | warmFailed call => exact .warmFailed call
  | closeIdle call =>
    simp only [State.step]
    split
    · exact .nothing _
    · next new => exact .closeIdle (by simpa using new)
  | close call =>
    simp only [State.step]
    split
    · exact .nothing _
    · next new => exact .close (by simpa using new)
  | drained call closed =>
    simp only [State.step]
    split
    · next found => exact .drained closed found
    · next found => exact .finished closed found
    · exact .nothing _
  | joined call =>
    simp only [State.step]
    split
    · next found =>
      split
      · exact .nothing _
      · next ended => exact .joined found (by simpa using ended)
    · exact .nothing _

/-! ### What other calls leave as it is -/

section Others

variable (s : State) (call : Nat)

theorem noteClosed_eq (connection : Nat) (closed : Bool) : s.noteClosed connection closed =
    { s with closed := if closed then connection :: s.closed else s.closed } := by
  cases closed <;> rfl

@[simp]
theorem noteClosed_get? (connection : Nat) (closed : Bool) :
    (s.noteClosed connection closed).get? call = s.get? call := by
  rw [noteClosed_eq]
  rfl

@[simp]
theorem noteClosed_closer? (connection : Nat) (closed : Bool) :
    (s.noteClosed connection closed).closer? call = s.closer? call := by
  rw [noteClosed_eq]
  rfl

@[simp]
theorem noteClosed_opened (connection : Nat) (closed : Bool) :
    (s.noteClosed connection closed).opened = s.opened := by
  rw [noteClosed_eq]

theorem finishNext_eq (rest : List Retiring) :
    ∃ closers, s.finishNext call rest = { s with closers } := by
  cases rest <;> exact ⟨_, rfl⟩

theorem drainNext_eq (wholePool : Bool) (rest : List Nat) :
    ∃ closers retiring, s.drainNext call wholePool rest = { s with closers, retiring } := by
  cases rest with
  | cons => exact ⟨_, s.retiring, rfl⟩
  | nil =>
    cases wholePool with
    | false => exact ⟨_, s.retiring, rfl⟩
    | true =>
      obtain ⟨closers, eq⟩ := finishNext_eq { s with retiring := [] } call s.retiring
      exact ⟨closers, [], eq⟩

theorem drain_eq (wholePool : Bool) :
    ∃ closers retiring, s.drain call wholePool = { s with idle := [], closers, retiring } :=
  drainNext_eq { s with idle := [] } call wholePool (s.idle.map Idle.connection)

theorem warm_eq : ∃ warmUps, s.warm call = { s with warmUps } := by
  unfold State.warm
  split
  · exact ⟨_, rfl⟩
  split
  · exact ⟨s.warmUps, rfl⟩
  · exact ⟨_, rfl⟩

end Others

/-! ### What no step takes back -/

/-- The configuration stays, closed connections stay closed, and nobody begins to open connections
in advance. -/
structure Continues (s t : State) : Prop where
  config : t.config = s.config
  closed : s.closed ⊆ t.closed
  warmUps : t.warmUps ⊆ s.warmUps

namespace Continues

variable {s t u : State}

theorem trans (first : Continues s t) (second : Continues t u) : Continues s u :=
  ⟨second.config.trans first.config, List.Subset.trans first.closed second.closed,
    List.Subset.trans second.warmUps first.warmUps⟩

theorem same (config : t.config = s.config) (closed : t.closed = s.closed)
    (warmUps : t.warmUps = s.warmUps) : Continues s t :=
  ⟨config, closed ▸ List.Subset.refl _, warmUps ▸ List.Subset.refl _⟩

theorem untouched (untouched : Untouched s t) : Continues s t :=
  .same untouched.config untouched.closed untouched.warmUps

theorem noteClosed (s : State) (connection : Nat) (closed : Bool) :
    Continues s (s.noteClosed connection closed) := by
  cases closed with
  | false => exact .same rfl rfl rfl
  | true => exact ⟨rfl, List.subset_cons_self _ _, List.Subset.refl _⟩

theorem finishNext (s : State) (call : Nat) (rest : List Retiring) :
    Continues s (s.finishNext call rest) := by
  obtain ⟨_, eq⟩ := finishNext_eq s call rest
  rw [eq]
  exact .same rfl rfl rfl

theorem drainNext (s : State) (call : Nat) (wholePool : Bool) (rest : List Nat) :
    Continues s (s.drainNext call wholePool rest) := by
  obtain ⟨_, _, eq⟩ := drainNext_eq s call wholePool rest
  rw [eq]
  exact .same rfl rfl rfl

theorem drain (s : State) (call : Nat) (wholePool : Bool) :
    Continues s (s.drain call wholePool) := by
  obtain ⟨_, _, eq⟩ := drain_eq s call wholePool
  rw [eq]
  exact .same rfl rfl rfl

theorem warm {s : State} {call : Nat} (warming : call ∈ s.warmUps) : Continues s (s.warm call) := by
  unfold State.warm
  split
  · exact ⟨rfl, List.Subset.refl _, List.erase_subset⟩
  · rw [if_pos (List.contains_iff_mem.mpr warming)]
    exact .same rfl rfl rfl

end Continues

/-- A call begins that opens connections in advance. -/
def Event.warms : Event → Bool
  | warmUp _ => true
  | _ => false

theorem step_continues (s : State) {event : Event} (untold : event.warms = false) :
    Continues s (s.step event) := by
  have effect := step_effect s event
  generalize s.step event = t at effect ⊢
  cases effect with
  | nothing => exact .same rfl rfl rfl
  | tick => exact .same rfl rfl rfl
  | lose => exact .noteClosed s _ true
  | get => exact .untouched (undisturbed_startGet s _).toUntouched
  | turnedAway => exact .untouched (undisturbed_fail s _ _).toUntouched
  | turn => exact .untouched (undisturbed_examine s _).toUntouched
  | usable => exact .same rfl rfl rfl
  | unusable => exact .same rfl rfl rfl
  | discarded closed =>
    exact (Continues.noteClosed s _ closed).trans (.untouched (undisturbed_examine _ _).toUntouched)
  | opened => exact .same rfl rfl rfl
  | refused => exact .untouched (undisturbed_fail s _ _).toUntouched
  | expired => exact .untouched (undisturbed_fail s _ _).toUntouched
  | cancelled => exact .untouched (undisturbed_leave s _).toUntouched
  | givenBack => exact .untouched (untouched_giveBack s _ _ _ _)
  | @retired connection closed =>
    have ended : Continues s { s with closings := s.closings.erase connection } := .same rfl rfl rfl
    exact ended.trans (.noteClosed _ connection closed)
  | warmUp => contradiction
  | @warmed call connection warming =>
    have put : Continues s ((s.noteOpened connection).putWarm connection) := .same rfl rfl rfl
    exact put.trans (.warm warming)
  | warmFailed => exact ⟨rfl, List.Subset.refl _, List.erase_subset⟩
  | closeIdle => exact .drain s _ false
  | @close call =>
    have told : Continues s { s with shut := true } := .same rfl rfl rfl
    exact told.trans (.drain _ call true)
  | drained closed => exact (Continues.noteClosed s _ closed).trans (.drainNext _ _ _ _)
  | finished closed => exact (Continues.noteClosed s _ closed).trans (.finishNext _ _ _)
  | joined => exact .finishNext s _ _

theorem step_config (s : State) (event : Event) : (s.step event).config = s.config := by
  cases told : event.warms with
  | false => exact (step_continues s told).config
  | true =>
    cases event with
    | warmUp call =>
      obtain ⟨_, eq⟩ := warm_eq s call
      simp only [State.step, eq]
      split <;> rfl
    | _ => contradiction

/-! ### Runs -/

/-- The state after a list of events. -/
def State.after (s : State) (events : List Event) : State := events.foldl State.step s

theorem after_config (s : State) (events : List Event) : (s.after events).config = s.config := by
  induction events generalizing s with
  | nil => rfl
  | cons event events ih => exact (ih (s.step event)).trans (step_config s event)

/-- What every event of a kind keeps holds after every list of events of this kind. -/
theorem after_keeps_each {Each : Event → Prop} (Holds : State → Prop)
    (kept : ∀ s event, Each event → Holds s → Holds (s.step event)) {s : State} (first : Holds s)
    {events : List Event} (each : ∀ event ∈ events, Each event) : Holds (s.after events) := by
  induction events generalizing s with
  | nil => exact first
  | cons event events ih =>
    exact ih (kept s event (each event List.mem_cons_self) first)
      fun event member => each event (List.mem_cons_of_mem _ member)

/-- What every event keeps holds after every list of events. -/
theorem after_keeps {Holds : State → Prop} (kept : ∀ s event, Holds s → Holds (s.step event))
    {s : State} (first : Holds s) (events : List Event) : Holds (s.after events) :=
  after_keeps_each Holds (fun s event _ => kept s event) first fun _ _ => trivial

/-- Each event of a list is allowed in the state in which it happens. -/
def Respects (allowed : State → Event → Prop) : State → List Event → Prop
  | _, [] => True
  | s, event :: events => allowed s event ∧ Respects allowed (s.step event) events

instance (allowed : State → Event → Prop) [∀ s event, Decidable (allowed s event)] :
    (s : State) → (events : List Event) → Decidable (Respects allowed s events)
  | _, [] => .isTrue trivial
  | s, event :: events =>
    have := instDecidableRespects allowed (s.step event) events
    inferInstanceAs (Decidable (_ ∧ _))

/-- What every allowed event keeps holds after a list of allowed events. -/
theorem after_invariant {allowed : State → Event → Prop} {Holds : State → Prop}
    (kept : ∀ s event, allowed s event → Holds s → Holds (s.step event)) {s : State}
    {events : List Event} (respects : Respects allowed s events) (first : Holds s) :
    Holds (s.after events) := by
  induction events generalizing s with
  | nil => exact first
  | cons event events ih => exact ih respects.2 (kept s event respects.1 first)

/-- What all events of a list are, and what each of them is allowed. -/
theorem Respects.and {allowed : State → Event → Prop} {Each : Event → Prop} {s : State}
    {events : List Event} (respects : Respects allowed s events) (each : ∀ event ∈ events, Each event) :
    Respects (fun s event => Each event ∧ allowed s event) s events := by
  induction events generalizing s with
  | nil => trivial
  | cons event events ih =>
    exact ⟨⟨each event List.mem_cons_self, respects.1⟩,
      ih respects.2 fun event member => each event (List.mem_cons_of_mem _ member)⟩

end SqlProbe.Pool
