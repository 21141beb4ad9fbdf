import SqlProbe.Proofs.Pool.Holdings

/-!
# Turns

A borrower with a slot has its turn when it finds a slot free, when it has been granted one, and each
time that an idle connection which it may not have has been closed. Only in a turn does a connection
leave the front of the idle ones, and only in a turn does a borrower begin to wait for a new one. So a
step is one of four things: a turn with what it offers, a connection lent that has been checked or has
just been opened, or a calm step. A calm step hands nothing out; it leaves the idle connections as they
are, puts one behind them and notes the time, or takes all of them away.
-/

namespace SqlProbe.Pool

/-! ### Borrowers that bide -/

/-- The borrower waits for its turn, or for the end of a connection that it may not have. It has no
connection in hand that may still be lent, and none is being opened for it. -/
def Get.bides : Get → Bool
  | queued => true
  | granted => true
  | discarding _ => true
  | _ => false

theorem mem_setGet {s : State} {call : Nat} {get : Get} {entry : Nat × Get}
    (member : entry ∈ (s.setGet call get).gets) : entry ∈ s.gets ∨ entry = (call, get) := by
  obtain ⟨before, among, rfl⟩ := List.mem_map.mp member
  split
  · exact .inr rfl
  · exact .inl among

/-- Nobody begins to wait for anything but a turn or the end of a connection. -/
def Lingers (gets gets' : List (Nat × Get)) : Prop :=
  ∀ entry ∈ gets', entry ∈ gets ∨ entry.2.bides = true

namespace Lingers

variable {gets gets' gets'' : List (Nat × Get)} {call : Nat} {old new : Option Get}

theorem refl (gets : List (Nat × Get)) : Lingers gets gets := fun _ => .inl

theorem trans (first : Lingers gets gets') (second : Lingers gets' gets'') : Lingers gets gets'' := by
  intro entry member
  rcases second entry member with before | bides
  · exact first entry before
  · exact .inr bides

theorem without (call : Nat) (gets : List (Nat × Get)) : Lingers gets (others call gets) :=
  fun _ member => .inl (List.mem_of_mem_filter member)

theorem exchange (exchange : Exchange call old new gets gets') (bides : new.all Get.bides = true) :
    Lingers gets gets' := by
  obtain ⟨rest, before, after⟩ := exchange
  intro entry member
  rcases List.mem_append.mp (after.subset member) with changed | other
  · obtain ⟨get, rfl, rfl⟩ := Option.map_eq_some_iff.mp (Option.mem_toList.mp changed)
    exact .inr bides
  · exact .inl (before.symm.subset (List.mem_append_right _ other))

theorem setGet (s : State) (call : Nat) {get : Get} (bides : get.bides = true) :
    Lingers s.gets (s.setGet call get).gets := by
  intro entry member
  rcases mem_setGet member with before | rfl
  · exact .inl before
  · exact .inr bides

theorem release (s : State) :
    ∃ free gets, s.release = { s with free, gets } ∧ Lingers s.gets gets := by
  unfold State.release
  split
  · next gets granted =>
    split at granted
    · contradiction
    · obtain ⟨_, moved⟩ := exchange_grantFirst granted
      exact ⟨s.free, gets, rfl, exchange moved rfl⟩
  · exact ⟨s.free + 1, s.gets, rfl, refl _⟩

theorem leave (s : State) (call : Nat) :
    ∃ free gets, s.leave call = { s with free, gets } ∧ Lingers s.gets gets := by
  rcases leave_cases s call with eq | eq
  · exact ⟨s.free, _, eq, without call s.gets⟩
  · obtain ⟨free, gets, released, lingers⟩ := release { s with gets := others call s.gets }
    exact ⟨free, gets, eq.trans released, (without call s.gets).trans lingers⟩

end Lingers

/-! ### Calm steps -/

/-- The event takes all idle connections away. -/
def Event.clears : Event → Bool
  | closeIdle _ => true
  | close _ => true
  | _ => false

/-- What becomes of the idle connections where none is offered to a borrower. -/
inductive Shift (s : State) (event : Event) : List Idle → Prop
  | stays : Shift s event s.idle
  | kept {loan : Loan} (lent : loan ∈ s.loans) :
      Shift s event (s.idle ++ [⟨loan.connection, loan.createdAt, s.now⟩])
  | warmed {connection : Nat} (fresh : connection ∉ s.opened) :
      Shift s event (s.idle ++ [⟨connection, s.now, s.now⟩])
  | cleared (clears : event.clears = true) : Shift s event []

/-- A step that hands nothing out and offers nothing. -/
structure Calm (s : State) (event : Event) (t : State) : Prop where
  ownCheck : t.ownCheck = s.ownCheck
  now : s.now ≤ t.now
  idle : Shift s event t.idle
  loans : t.loans ⊆ s.loans
  gets : Lingers s.gets t.gets
  told : ∃ told, t.results = told ++ s.results ∧ ∀ result ∈ told, ∃ cause, result.2 = .error cause

namespace Calm

variable {s t u : State} {event : Event}

theorem rest (ownCheck : t.ownCheck = s.ownCheck) (now : s.now ≤ t.now)
    (idle : Shift s event t.idle) (loans : t.loans ⊆ s.loans) (gets : Lingers s.gets t.gets)
    (results : t.results = s.results) : Calm s event t :=
  ⟨ownCheck, now, idle, loans, gets, [], results, fun _ member => nomatch member⟩

/-- What has changed has nothing to do with idle connections or borrowers. -/
theorem still (same : t.ownCheck = s.ownCheck ∧ t.idle = s.idle ∧ t.loans = s.loans ∧
    t.gets = s.gets ∧ t.results = s.results) (now : s.now ≤ t.now) : Calm s event t := by
  obtain ⟨ownCheck, idle, loans, gets, results⟩ := same
  exact .rest ownCheck now (idle ▸ .stays) (loans ▸ List.Subset.refl _) (gets ▸ .refl _) results

theorem leave (s : State) (call : Nat) : Calm s event (s.leave call) := by
  obtain ⟨free, gets, eq, lingers⟩ := Lingers.leave s call
  rw [eq]
  exact .rest rfl (Nat.le_refl _) .stays (List.Subset.refl _) lingers rfl

theorem fail (s : State) (call : Nat) (cause : Error) : Calm s event (s.fail call cause) := by
  obtain ⟨free, gets, eq, lingers⟩ := Lingers.leave s call
  unfold State.fail
  rw [eq]
  refine ⟨rfl, Nat.le_refl _, .stays, List.Subset.refl _, lingers, [(call, .error cause)], rfl, ?_⟩
  intro result member
  rw [List.mem_singleton.mp member]
  exact ⟨cause, rfl⟩

theorem noteClosed (s : State) (connection : Nat) (closed : Bool) :
    Calm s event (s.noteClosed connection closed) := by
  rw [noteClosed_eq]
  exact .still ⟨rfl, rfl, rfl, rfl, rfl⟩ (Nat.le_refl _)

/-- A borrowed connection comes back. -/
theorem giveBack {loan : Loan} (lent : loan ∈ s.loans) (active : Nat) (outside : Bool) :
    Calm s event
      ({ s with loans := s.loans.erase loan, active }.takeBack loan outside).release := by
  obtain ⟨free, gets, released, lingers⟩ :=
    Lingers.release ({ s with loans := s.loans.erase loan, active }.takeBack loan outside)
  rw [released]
  rcases takeBack_cases { s with loans := s.loans.erase loan, active } loan outside with
    ⟨_, eq⟩ | ⟨_, _, eq⟩ | ⟨_, eq⟩
  · rw [eq] at lingers ⊢
    exact .rest rfl (Nat.le_refl _) .stays List.erase_subset lingers rfl
  · obtain ⟨_, _, eq'⟩ := retire_eq _ loan.connection outside
    rw [eq, eq'] at lingers ⊢
    exact .rest rfl (Nat.le_refl _) .stays List.erase_subset lingers rfl
  · rw [eq] at lingers ⊢
    exact .rest rfl (Nat.le_refl _) (.kept lent) List.erase_subset lingers rfl

/-- A connection that has been opened in advance becomes idle. -/
theorem warmed {connection : Nat} (fresh : connection ∉ s.opened) (call : Nat) :
    Calm s event (((s.noteOpened connection).putWarm connection).warm call) := by
  obtain ⟨_, eq⟩ := warm_eq ((s.noteOpened connection).putWarm connection) call
  rw [eq]
  exact .rest rfl (Nat.le_refl _) (.warmed fresh) (List.Subset.refl _) (.refl _) rfl

theorem drain (s : State) (call : Nat) (wholePool shut : Bool) (clears : event.clears = true) :
    Calm s event ({ s with shut }.drain call wholePool) := by
  obtain ⟨_, _, eq⟩ := drain_eq { s with shut } call wholePool
  rw [eq]
  exact .rest rfl (Nat.le_refl _) (.cleared clears) (List.Subset.refl _) (.refl _) rfl

theorem drainNext (s : State) (call : Nat) (closed wholePool : Bool) (connection : Nat)
    (rest : List Nat) : Calm s event ((s.noteClosed connection closed).drainNext call wholePool rest) := by
  obtain ⟨_, _, eq⟩ := drainNext_eq (s.noteClosed connection closed) call wholePool rest
  rw [eq, noteClosed_eq]
  exact .still ⟨rfl, rfl, rfl, rfl, rfl⟩ (Nat.le_refl _)

theorem finishNext (s : State) (call : Nat) (closed : Bool) (connection : Nat)
    (rest : List Retiring) : Calm s event ((s.noteClosed connection closed).finishNext call rest) := by
  obtain ⟨_, eq⟩ := finishNext_eq (s.noteClosed connection closed) call rest
  rw [eq, noteClosed_eq]
  exact .still ⟨rfl, rfl, rfl, rfl, rfl⟩ (Nat.le_refl _)

end Calm

/-! ### Steps -/

/-- The counts of connections that were not kept or not lent. -/
def State.closedCounts (s : State) : Nat × Nat × Nat :=
  (s.overIdleCap, s.pastLifetime, s.pastIdleTimeout)

/-- A borrower has its turn, in a state that may differ from the one before the event in what waits
and in what is closed, but in nothing that decides about the idle connections. -/
structure Turn (s u : State) (call : Nat) : Prop where
  config : u.config = s.config
  ownCheck : u.ownCheck = s.ownCheck
  now : u.now = s.now
  idle : u.idle = s.idle
  loans : u.loans = s.loans
  results : u.results = s.results
  counts : u.closedCounts = s.closedCounts
  isClosed : ∀ entry ∈ s.idle, u.isClosed entry.connection = s.isClosed entry.connection
  gets : Lingers s.gets u.gets
  waits : ∃ get, u.get? call = some get

/-- What a step is. -/
inductive Course (s : State) (event : Event) (t : State) : Prop
  | calm (calm : Calm s event t)
  | turn {u : State} {call : Nat} (turn : Turn s u call) (offer : Offer u call t)
  | passed {call connection createdAt : Nat}
      (found : s.get? call = some (.validating connection createdAt))
      (eq : t = s.lend call ⟨connection, createdAt⟩)
  | new {call connection : Nat} (fresh : connection ∉ s.opened)
      (eq : t = (s.noteOpened connection).lend call ⟨connection, s.now⟩)

section Steps

variable {s : State} {event : Event}

theorem Turn.same {call : Nat} {get : Get} (found : s.get? call = some get) : Turn s s call :=
  ⟨rfl, rfl, rfl, rfl, rfl, rfl, rfl, fun _ _ => rfl, .refl _, get, found⟩

/-- Closing the connection that a borrower has in hand closes no idle one. -/
theorem Turn.discarded (custody : Custody s) {call connection : Nat}
    (found : s.get? call = some (.discarding connection)) (closed : Bool) :
    Turn s (s.noteClosed connection closed) call := by
  rw [noteClosed_eq]
  refine ⟨rfl, rfl, rfl, rfl, rfl, rfl, rfl, ?_, .refl _, _, found⟩
  intro entry member
  have differ := custody.idle_ne_examined member (mem_of_lookup found) rfl
  cases closed with
  | false => rfl
  | true => simp [State.isClosed, differ]

/-- A new borrower is turned away or waits in the queue, or it has its turn at once. -/
theorem course_startGet (custody : Custody s) {call : Nat} (new : s.get? call = none) :
    Course s event (s.startGet call) := by
  rcases startGet_cases custody.distinct.gets new with
    ⟨shut, -⟩ | ⟨-, free, get, gets, -, idles, exchange, -, found, -, eq | ⟨-, eq⟩⟩
  · have eq : s.startGet call = { s with results := (call, .error poolClosed) :: s.results } :=
      if_pos shut
    rw [eq]
    refine .calm ⟨rfl, Nat.le_refl _, .stays, List.Subset.refl _, .refl _, [_], rfl, ?_⟩
    intro result member
    rw [List.mem_singleton.mp member]
    exact ⟨poolClosed, rfl⟩
  all_goals
    have bides : get.bides = true := by cases get <;> first | rfl | contradiction
    have lingers : Lingers s.gets gets := .exchange exchange bides
    rw [eq]
  · exact .calm (.rest rfl (Nat.le_refl _) .stays (List.Subset.refl _) lingers rfl)
  · have turn : Turn s { s with waiting := s.waiting + 1, free, gets } call :=
      ⟨rfl, rfl, rfl, rfl, rfl, rfl, rfl, fun _ _ => rfl, lingers, get, found⟩
    exact .turn turn (examine_offer _ call)

/-- Every step is a turn, the lending of a connection that has been checked or opened, or calm. -/
theorem step_course (custody : Custody s) (event : Event) : Course s event (s.step event) := by
  have effect := step_effect s event
  generalize s.step event = t at effect ⊢
  cases effect with
  | nothing => exact .calm (.still ⟨rfl, rfl, rfl, rfl, rfl⟩ (Nat.le_refl _))
  | tick => exact .calm (.still ⟨rfl, rfl, rfl, rfl, rfl⟩ (Nat.le_add_right _ _))
  | lose => exact .calm (.noteClosed s _ true)
  | get new => exact course_startGet custody new
  | turnedAway => exact .calm (.fail s _ _)
  | turn found => exact .turn (.same found) (examine_offer s _)
  | usable found => exact .passed found rfl
  | unusable =>
    exact .calm (.rest rfl (Nat.le_refl _) .stays (List.Subset.refl _) (.setGet s _ rfl) rfl)
  | discarded closed found => exact .turn (.discarded custody found closed) (examine_offer _ _)
  | opened _ fresh => exact .new fresh rfl
  | refused => exact .calm (.fail s _ _)
  | expired => exact .calm (.fail s _ _)
  | cancelled call => exact .calm (.leave s call)
  | givenBack outside lent => exact .calm (.giveBack lent _ outside)
  | retired =>
    rw [noteClosed_eq]
    exact .calm (.still ⟨rfl, rfl, rfl, rfl, rfl⟩ (Nat.le_refl _))
  | warmUp =>
    obtain ⟨_, eq⟩ := warm_eq s _
    rw [eq]
    exact .calm (.still ⟨rfl, rfl, rfl, rfl, rfl⟩ (Nat.le_refl _))
  | warmed _ fresh => exact .calm (.warmed fresh _)
  | warmFailed => exact .calm (.still ⟨rfl, rfl, rfl, rfl, rfl⟩ (Nat.le_refl _))
  | closeIdle => exact .calm (.drain s _ false s.shut rfl)
  | close => exact .calm (.drain s _ true true rfl)
  | drained closed => exact .calm (.drainNext s _ closed _ _ _)
  | finished closed => exact .calm (.finishNext s _ closed _ _)
  | @joined call connection => exact .calm (.finishNext s call false connection _)

end Steps

/-! ### What a step does to connections -/

/-- A borrower has the connection, or has had it taken from the idle ones and may still get it. -/
inductive InHand (s : State) (connection createdAt : Nat) : Prop
  | lent (member : ⟨connection, createdAt⟩ ∈ s.loans)
  | checked {call : Nat} (member : (call, .validating connection createdAt) ∈ s.gets)

/-- The first idle connection is taken to be lent, or to be checked before. -/
structure Taken (s t : State) (entry : Idle) : Prop where
  now : t.now = s.now
  idle : s.idle = entry :: t.idle
  young : s.outlived entry.createdAt = false
  early : s.overdue entry.idleSince = false

section Connections

variable {s t u : State} {event : Event} {call connection createdAt : Nat}

theorem Custody.idle_ne_inHand (custody : Custody s) {entry : Idle} (idle : entry ∈ s.idle)
    (inHand : InHand s connection createdAt) : entry.connection ≠ connection := by
  cases inHand with
  | lent member => exact custody.idle_ne_lent idle member
  | checked member => exact custody.idle_ne_examined idle member rfl

theorem Custody.opened_of_inHand (custody : Custody s) (inHand : InHand s connection createdAt) :
    connection ∈ s.opened := by
  refine custody.known _ ?_
  simp only [State.held, List.append_assoc]
  refine List.mem_append_right _ ?_
  cases inHand with
  | lent member => exact List.mem_append_left _ (List.mem_map.mpr ⟨_, member, rfl⟩)
  | checked member =>
    refine List.mem_append_right _ (List.mem_append_left _ ?_)
    exact List.mem_flatMap.mpr ⟨_, member, Option.mem_toList.mpr rfl⟩

namespace InHand

/-- Nothing comes into anybody's hands while nothing is lent and nobody begins to have anything
checked. -/
theorem of_lingers (gets : Lingers s.gets t.gets) (loans : t.loans ⊆ s.loans)
    (inHand : InHand t connection createdAt) : InHand s connection createdAt := by
  cases inHand with
  | lent member => exact .lent (loans member)
  | checked member => exact .checked ((gets _ member).resolve_right nofun)

theorem of_setGet {get : Get} (inHand : InHand (s.setGet call get) connection createdAt) :
    InHand s connection createdAt ∨ get = .validating connection createdAt := by
  cases inHand with
  | lent member => exact .inl (.lent member)
  | checked member =>
    rcases mem_setGet member with before | changed
    · exact .inl (.checked before)
    · exact .inr (congrArg Prod.snd changed).symm

theorem of_lend {loan : Loan} (inHand : InHand (s.lend call loan) connection createdAt) :
    InHand s connection createdAt ∨ loan = ⟨connection, createdAt⟩ := by
  cases inHand with
  | lent member =>
    rcases List.mem_append.mp member with before | new
    · exact .inl (.lent before)
    · exact .inr (List.mem_singleton.mp new).symm
  | checked member => exact .inl (.checked (List.mem_of_mem_filter member))

/-- What has nothing to do with borrowers puts nothing into anybody's hands. -/
theorem same (inHand : InHand t connection createdAt) (loans : t.loans = s.loans)
    (gets : t.gets = s.gets) : InHand s connection createdAt :=
  inHand.of_lingers (gets ▸ .refl _) (loans ▸ List.Subset.refl _)

theorem of_offer (offer : Offer s call t) (inHand : InHand t connection createdAt) :
    InHand s connection createdAt ∨ ∃ idleSince, Taken s t ⟨connection, createdAt, idleSince⟩ := by
  cases offer with
  | opening => exact .inl (inHand.of_setGet.resolve_right nofun)
  | tooOld | overdue | foundClosed =>
    exact .inl ((inHand.of_setGet.resolve_right nofun).same rfl rfl)
  | checked first young early =>
    rcases inHand.of_setGet with before | same
    · exact .inl (before.same rfl rfl)
    · obtain ⟨rfl, rfl⟩ := Get.validating.inj same
      exact .inr ⟨_, rfl, first, young, early⟩
  | lent first young early =>
    rcases inHand.of_lend with before | same
    · exact .inl (before.same rfl rfl)
    · obtain ⟨rfl, rfl⟩ := Loan.mk.inj same
      exact .inr ⟨_, rfl, first, young, early⟩

end InHand

theorem Turn.outlived (turn : Turn s u call) (time : Nat) : u.outlived time = s.outlived time := by
  rw [State.outlived, turn.config, turn.now, State.outlived]

theorem Turn.overdue (turn : Turn s u call) (time : Nat) : u.overdue time = s.overdue time := by
  rw [State.overdue, turn.config, turn.now, State.overdue]

theorem Turn.taken (turn : Turn s u call) {entry : Idle} (taken : Taken u t entry) :
    Taken s t entry where
  now := taken.now.trans turn.now
  idle := turn.idle ▸ taken.idle
  young := (turn.outlived _).symm.trans taken.young
  early := (turn.overdue _).symm.trans taken.early

/-- A connection comes into a borrower's hands when it is opened, or when it is taken from the front of
the idle ones. -/
theorem Course.inHand (course : Course s event t) (inHand : InHand t connection createdAt) :
    InHand s connection createdAt ∨ (connection ∉ s.opened ∧ createdAt = s.now) ∨
      ∃ idleSince, Taken s t ⟨connection, createdAt, idleSince⟩ := by
  cases course with
  | calm calm => exact .inl (inHand.of_lingers calm.gets calm.loans)
  | turn turn offer =>
    rcases inHand.of_offer offer with before | ⟨idleSince, taken⟩
    · exact .inl (before.of_lingers turn.gets (turn.loans ▸ List.Subset.refl _))
    · exact .inr (.inr ⟨idleSince, turn.taken taken⟩)
  | passed found eq =>
    subst eq
    rcases inHand.of_lend with before | same
    · exact .inl before
    · obtain ⟨rfl, rfl⟩ := Loan.mk.inj same
      exact .inl (.checked (mem_of_lookup found))
  | new fresh eq =>
    subst eq
    rcases inHand.of_lend with before | same
    · exact .inl (before.same rfl rfl)
    · obtain ⟨rfl, rfl⟩ := Loan.mk.inj same
      exact .inr (.inl ⟨fresh, rfl⟩)

/-- Connections leave the queue of idle ones in front, or all at once, and join it at the end. -/
theorem Course.idle (course : Course s event t) : t.idle.Sublist s.idle ∨
    ∃ connection createdAt, t.idle = s.idle ++ [⟨connection, createdAt, s.now⟩] ∧
      (InHand s connection createdAt ∨ connection ∉ s.opened ∧ createdAt = s.now) := by
  cases course with
  | calm calm =>
    have shift := calm.idle
    generalize t.idle = idle at shift
    cases shift with
    | stays => exact .inl (List.Sublist.refl _)
    | kept lent => exact .inr ⟨_, _, rfl, .inl (.lent lent)⟩
    | warmed fresh => exact .inr ⟨_, _, rfl, .inr ⟨fresh, rfl⟩⟩
    | cleared => exact .inl (List.nil_sublist _)
  | turn turn offer =>
    rw [← turn.idle]
    cases offer with
    | opening => exact .inl (List.Sublist.refl _)
    | tooOld first | overdue first | checked first | foundClosed first | lent first =>
      exact .inl (first ▸ List.sublist_cons_self _ _)
  | passed _ eq => exact .inl (eq ▸ List.Sublist.refl _)
  | new _ eq => exact .inl (eq ▸ List.Sublist.refl _)

theorem eq_of_lend {other : Nat} {loan : Loan} {results : List (Nat × Except Error Nat)}
    (hands : (s.lend other loan).results = (call, .ok connection) :: results) :
    other = call ∧ loan.connection = connection := by
  obtain ⟨same, -⟩ := List.cons.inj hands
  exact ⟨congrArg Prod.fst same, Except.ok.inj (congrArg Prod.snd same)⟩

/-- A borrower is handed a new connection, one that it has had checked, or the first idle one. -/
theorem Course.handsOut (course : Course s event t)
    (hands : t.results = (call, .ok connection) :: s.results) :
    connection ∉ s.opened ∨ (∃ createdAt, s.get? call = some (.validating connection createdAt)) ∨
      ∃ entry, Taken s t entry ∧ entry.connection = connection ∧ t.isClosed connection = false ∧
        InHand t connection entry.createdAt := by
  cases course with
  | calm calm =>
    obtain ⟨told, results, errors⟩ := calm.told
    rw [results, ← List.singleton_append] at hands
    rw [List.append_cancel_right hands] at errors
    obtain ⟨_, error⟩ := errors _ (List.mem_singleton_self _)
    contradiction
  | @turn u _ turn offer =>
    -- Of the six offers, only that of a connection that may be lent ends the borrower's wait.
    have silent (same : t.results = u.results) : False := by
      rw [same, turn.results] at hands
      exact List.cons_ne_self _ _ hands.symm
    cases offer with
    | opening | tooOld | overdue | checked | foundClosed => exact (silent rfl).elim
    | @lent entry idle first young early plain live =>
      obtain ⟨-, rfl⟩ := eq_of_lend hands
      refine .inr (.inr ⟨entry, turn.taken ⟨rfl, first, young, early⟩, rfl, live, ?_⟩)
      exact .lent (List.mem_append_right _ (List.mem_singleton_self _))
  | passed found eq =>
    subst eq
    obtain ⟨rfl, rfl⟩ := eq_of_lend hands
    exact .inr (.inl ⟨_, found⟩)
  | new fresh eq =>
    subst eq
    obtain ⟨rfl, rfl⟩ := eq_of_lend hands
    exact .inl fresh

/-- Why a borrower is among those that wait after a step, and what for. -/
inductive Expects (s t : State) (entry : Nat × Get) : Prop
  | before (among : entry ∈ s.gets)
  | bides (bides : entry.2.bides = true)
  | opening (waits : entry.2 = .opening) (none : s.idle = [] ∧ t.idle = [])
  | checking {connection createdAt : Nat} (waits : entry.2 = .validating connection createdAt)
      (own : s.ownCheck = true)

theorem Course.waits (course : Course s event t) {entry : Nat × Get} (member : entry ∈ t.gets) :
    Expects s t entry := by
  cases course with
  | calm calm => exact (calm.gets entry member).elim .before .bides
  | @turn u _ turn offer =>
    have before (among : entry ∈ u.gets) : Expects s t entry :=
      (turn.gets entry among).elim .before .bides
    cases offer with
    | opening none =>
      rcases mem_setGet member with among | rfl
      · exact before among
      · exact .opening rfl ⟨turn.idle ▸ none, none⟩
    | checked _ _ _ own =>
      rcases mem_setGet member with among | rfl
      · exact before among
      · exact .checking rfl (turn.ownCheck ▸ own)
    | tooOld | overdue | foundClosed =>
      rcases mem_setGet member with among | rfl
      · exact before among
      · exact .bides rfl
    | lent => exact before (List.mem_of_mem_filter member)
  | passed _ eq =>
    subst eq
    exact .before (List.mem_of_mem_filter member)
  | new _ eq =>
    subst eq
    exact .before (List.mem_of_mem_filter member)

/-- Time does not go back. -/
theorem Course.now (course : Course s event t) : s.now ≤ t.now := by
  cases course with
  | calm calm => exact calm.now
  | turn turn offer =>
    rw [← turn.now]
    cases offer <;> exact Nat.le_refl _
  | passed _ eq => exact eq ▸ Nat.le_refl _
  | new _ eq => exact eq ▸ Nat.le_refl _

end Connections

/-! ### Factories without a check of their own -/

/-- The factory has no check of its own, and so no borrower waits for its word. -/
structure Plain (s : State) : Prop where
  ownCheck : s.ownCheck = false
  gets : ∀ entry ∈ s.gets, ∀ connection createdAt, entry.2 ≠ .validating connection createdAt

section Factories

variable {s t : State} {event : Event}

theorem Course.ownCheck (course : Course s event t) : t.ownCheck = s.ownCheck := by
  cases course with
  | calm calm => exact calm.ownCheck
  | turn turn offer =>
    rw [← turn.ownCheck]
    cases offer <;> rfl
  | passed _ eq => exact eq ▸ rfl
  | new _ eq => exact eq ▸ rfl

namespace Plain

theorem ofConfig (config : Config) : Plain (State.ofConfig config false) :=
  ⟨rfl, fun _ member => nomatch member⟩

theorem ne_validating (plain : Plain s) {call : Nat} (connection createdAt : Nat) :
    s.get? call ≠ some (.validating connection createdAt) :=
  fun found => plain.gets _ (mem_of_lookup found) connection createdAt rfl

theorem step (plain : Plain s) (custody : Custody s) (event : Event) : Plain (s.step event) := by
  have course := step_course custody event
  refine ⟨course.ownCheck.trans plain.ownCheck, ?_⟩
  rintro ⟨call, _⟩ member connection createdAt rfl
  cases course.waits member with
  | before among => exact plain.gets _ among connection createdAt rfl
  | checking _ own =>
    rw [plain.ownCheck] at own
    contradiction
  | _ => contradiction

theorem after (config : Config) (events : List Event) :
    Plain ((State.ofConfig config false).after events) := by
  have kept (s : State) (event : Event) (both : Custody s ∧ Plain s) :
      Custody (s.step event) ∧ Plain (s.step event) :=
    ⟨both.1.step event, both.2.step both.1 event⟩
  exact (after_keeps kept ⟨.ofConfig config false, ofConfig config⟩ events).2

end Plain

end Factories

end SqlProbe.Pool
