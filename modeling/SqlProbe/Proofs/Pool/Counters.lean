import SqlProbe.Proofs.Pool.Exits

/-!
# What a pool counts

A pool counts the connections that it opens and, by their reasons, three kinds of those that it does
not keep. The list of all that have gone so far, each with its reason, balances the counts: whatever
has been opened is idle, borrowed, or on the list once. For this the factory must not have a check of
its own, since a connection that is being checked is neither idle nor borrowed and may come back.
-/

namespace SqlProbe.Pool

/-! ### Steps -/

section Steps

variable {s : State} {event : Event}

theorem Custody.nodup_stock (custody : Custody s) : s.stock.Nodup := by
  have once := custody.once
  simp only [State.held, List.append_assoc] at once
  rw [← List.append_assoc] at once
  exact once.of_append_left

theorem Custody.stock_subset (custody : Custody s) : ∀ connection ∈ s.stock, connection ∈ s.opened := by
  intro connection member
  refine custody.known connection ?_
  simp only [State.held, List.append_assoc]
  rw [← List.append_assoc]
  exact List.mem_append_left _ member

/-- A borrowed connection is borrowed once. -/
theorem find?_loan (custody : Custody s) {loan : Loan} (lent : loan ∈ s.loans) :
    (s.loans.find? fun other => other.connection = loan.connection) = some loan := by
  have apart : (s.loans.map Loan.connection).Nodup := custody.nodup_stock.of_append_right
  cases found : s.loans.find? fun other => other.connection = loan.connection with
  | none => simpa using List.find?_eq_none.mp found loan lent
  | some other =>
    have same : other.connection = loan.connection := by simpa using List.find?_some found
    rw [List.inj_on_of_nodup_map apart (List.mem_of_find?_eq_some found) lent same]

/-- Every step accounts for the connections that it takes away. -/
theorem step_accounts (custody : Custody s) (plain : Plain s) (event : Event) :
    Accounts s event (s.step event) := by
  have effect := step_effect s event
  generalize s.step event = t at effect ⊢
  cases effect with
  | nothing => exact .ofSteady ⟨rfl, rfl, rfl, rfl, rfl, rfl⟩
  | tick => exact .ofSteady ⟨rfl, rfl, rfl, rfl, rfl, rfl⟩
  | lose => exact .ofSteady (.noteClosed s _ true)
  | get => exact .startGet plain.ownCheck _
  | turnedAway => exact .ofSteady (.fail s _ _)
  | turn => exact .examine plain.ownCheck (fun _ => rfl) _
  | usable found => exact absurd found (plain.ne_validating _ _)
  | unusable found => exact absurd found (plain.ne_validating _ _)
  | @discarded call connection closed found =>
    refine .before (.noteClosed s connection closed) (exit?_noteClosed custody found closed) ?_
    refine .examine ?_ (fun _ => rfl) call
    rw [noteClosed_eq]
    exact plain.ownCheck
  | opened _ fresh => exact .ofPassage (.lendNew fresh _)
  | refused => exact .ofSteady (.fail s _ _)
  | expired => exact .ofSteady (.fail s _ _)
  | cancelled call => exact .ofSteady (.leave s call)
  | givenBack outside lent same => exact .giveBack outside (same ▸ find?_loan custody lent)
  | @retired connection closed =>
    have ended : Steady s { s with closings := s.closings.erase connection } :=
      ⟨rfl, rfl, rfl, rfl, rfl, rfl⟩
    exact .ofSteady (ended.trans (.noteClosed _ connection closed))
  | warmUp => exact .ofSteady (.warm s _)
  | warmed _ fresh => exact .ofPassage ((Steady.warm _ _).after (.putWarm fresh))
  | warmFailed => exact .ofSteady ⟨rfl, rfl, rfl, rfl, rfl, rfl⟩
  | closeIdle => exact .drain _ false fun _ => rfl
  | @close call =>
    have told : Steady s { s with shut := true } := ⟨rfl, rfl, rfl, rfl, rfl, rfl⟩
    exact .before told (fun _ => rfl) (.drain call true fun _ => rfl)
  | drained closed => exact .ofSteady ((Steady.noteClosed s _ closed).trans (.drainNext _ _ _ _))
  | finished closed => exact .ofSteady ((Steady.noteClosed s _ closed).trans (.finishNext _ _ _))
  | joined => exact .ofSteady (.finishNext s _ _)

/-- What a step accounts for is all that was idle or borrowed before it and is neither after it. -/
theorem exits_perm (custody : Custody s) {added : Option Nat} {gone : List (Nat × Exit)}
    (passage : Passage s (s.step event) added gone)
    (reasons : ∀ exit ∈ gone, s.exit? exit.1 event = some exit.2) : (s.exits event).Perm gone := by
  have whole : (added.toList ++ s.stock).Nodup := by
    refine List.nodup_append.mpr ⟨Option.toList_nodup added, custody.nodup_stock, ?_⟩
    rintro new member connection among rfl
    exact passage.fresh new (Option.mem_toList.mp member) (custody.stock_subset new among)
  have parts := passage.stock.nodup_iff.mpr whole
  have left : (s.stock.filter fun connection =>
      !(s.step event).stock.contains connection).Perm (gone.map Prod.fst) := by
    refine (List.perm_ext_iff_of_nodup (custody.nodup_stock.filter _) parts.of_append_left).mpr ?_
    intro connection
    simp only [List.mem_filter, Bool.not_eq_true', List.contains_eq_mem, decide_eq_false_iff_not]
    constructor
    · rintro ⟨before, after⟩
      have among := passage.stock.symm.subset (List.mem_append_right _ before)
      exact (List.mem_append.mp among).resolve_right after
    · intro member
      obtain ⟨exit, among, rfl⟩ := List.mem_map.mp member
      exact ⟨passage.among exit among, List.disjoint_of_nodup_append parts member⟩
  refine (left.filterMap _).trans (List.Perm.of_eq ?_)
  rw [List.filterMap_map]
  refine (List.filterMap_congr ?_).trans (List.filterMap_some)
  intro exit member
  simp [reasons exit member]

end Steps

/-! ### Runs -/

/-- The connections that have been opened so far: those that are idle or borrowed, and those that
have gone. -/
structure Booked (s : State) (gone : List (Nat × Exit)) : Prop where
  custody : Custody s
  plain : Plain s
  once : s.opened.Nodup
  stock : (gone.map Prod.fst ++ s.stock).Perm s.opened
  created : s.created = s.opened.length
  active : s.active = s.loans.length
  counter : ∀ why, why.isCounted = true → s.counter why = tally why gone

namespace Booked

variable {s : State} {gone : List (Nat × Exit)}

theorem ofConfig (config : Config) : Booked (State.ofConfig config false) [] where
  custody := .ofConfig config false
  plain := .ofConfig config
  once := List.nodup_nil
  stock := List.Perm.refl _
  created := rfl
  active := rfl
  counter := fun why _ => by cases why <;> rfl

theorem step (booked : Booked s gone) (event : Event) :
    Booked (s.step event) (gone ++ s.exits event) := by
  obtain ⟨added, now, passage, reasons⟩ := step_accounts booked.custody booked.plain event
  have exits := exits_perm booked.custody passage reasons
  refine ⟨booked.custody.step event, booked.plain.step booked.custody event, ?_, ?_, ?_, ?_, ?_⟩
  · rw [passage.opened]
    refine List.nodup_append.mpr ⟨Option.toList_nodup added, booked.once, ?_⟩
    rintro new member connection among rfl
    exact passage.fresh new (Option.mem_toList.mp member) among
  · rw [List.map_append, List.append_assoc, passage.opened]
    have moved := ((exits.map Prod.fst).append_right (s.step event).stock).trans passage.stock
    refine (moved.append_left _).trans ?_
    rw [← List.append_assoc]
    refine (List.perm_append_comm.append_right _).trans ?_
    rw [List.append_assoc]
    exact booked.stock.append_left _
  · rw [passage.created, passage.opened, List.length_append, booked.created, Nat.add_comm]
  · exact passage.active booked.active
  · intro why counted
    rw [passage.counter why counted, booked.counter why counted, tally_append, tally, tally, tally,
      exits.countP_eq]

theorem after (booked : Booked s gone) (events : List Event) :
    Booked (s.after events) (gone ++ s.ledger events) := by
  induction events generalizing s gone with
  | nil =>
    rw [State.ledger, List.append_nil]
    exact booked
  | cons event events ih =>
    rw [State.ledger, ← List.append_assoc]
    exact ih (booked.step event)

/-- What has been opened is idle, borrowed, or gone for one reason. -/
theorem created_eq (booked : Booked s gone) : s.created = s.idle.length + s.active + s.overIdleCap +
    s.pastLifetime + s.pastIdleTimeout + gone.countP fun exit => !exit.2.isCounted := by
  have parts := booked.stock.length_eq
  have reasons := length_eq_tally gone
  have cap : s.overIdleCap = _ := booked.counter .overIdleCap rfl
  have lifetime : s.pastLifetime = _ := booked.counter .pastLifetime rfl
  have idleTimeout : s.pastIdleTimeout = _ := booked.counter .pastIdleTimeout rfl
  simp only [List.length_append, List.length_map, State.stock] at parts
  rw [booked.created, booked.active]
  omega

end Booked

/-- The counts of a pool and the list of the connections that have gone agree. -/
structure Balanced (s : State) (gone : List (Nat × Exit)) : Prop where
  /-- Every connection that has been opened is idle, is borrowed, or has gone; of those that have gone
  three kinds are counted, and the rest is on the list. -/
  created : s.stats.created = s.stats.idle + s.stats.active + s.stats.maxIdleClosed +
    s.stats.maxLifetimeClosed + s.stats.idleTimeoutClosed + gone.countP fun exit => !exit.2.isCounted
  /-- None has gone twice, or for two reasons. -/
  once : (gone.map Prod.fst).Nodup
  /-- Each count is that of the connections that have gone for its reason. -/
  maxIdleClosed : s.stats.maxIdleClosed = tally .overIdleCap gone
  maxLifetimeClosed : s.stats.maxLifetimeClosed = tally .pastLifetime gone
  idleTimeoutClosed : s.stats.idleTimeoutClosed = tally .pastIdleTimeout gone

theorem Booked.balanced {s : State} {gone : List (Nat × Exit)} (booked : Booked s gone) :
    Balanced s gone where
  created := booked.created_eq
  once := (booked.stock.nodup_iff.mpr booked.once).of_append_left
  maxIdleClosed := booked.counter .overIdleCap rfl
  maxLifetimeClosed := booked.counter .pastLifetime rfl
  idleTimeoutClosed := booked.counter .pastIdleTimeout rfl

/-- None of the counts of what has gone is lower than it was. -/
structure Grows (before after : Stats) : Prop where
  created : before.created ≤ after.created
  maxIdleClosed : before.maxIdleClosed ≤ after.maxIdleClosed
  maxLifetimeClosed : before.maxLifetimeClosed ≤ after.maxLifetimeClosed
  idleTimeoutClosed : before.idleTimeoutClosed ≤ after.idleTimeoutClosed

theorem Booked.grows_step {s : State} {gone : List (Nat × Exit)} (booked : Booked s gone)
    (event : Event) : Grows s.stats (s.step event).stats := by
  obtain ⟨added, now, passage, -⟩ := step_accounts booked.custody booked.plain event
  have more (why : Exit) (counted : why.isCounted = true) :
      s.counter why ≤ (s.step event).counter why := by
    rw [passage.counter why counted]
    exact Nat.le_add_right _ _
  refine ⟨?_, more .overIdleCap rfl, more .pastLifetime rfl, more .pastIdleTimeout rfl⟩
  change s.created ≤ (s.step event).created
  rw [passage.created]
  exact Nat.le_add_right _ _

theorem Booked.grows {s : State} {gone : List (Nat × Exit)} (booked : Booked s gone)
    (events : List Event) : Grows s.stats (s.after events).stats := by
  induction events generalizing s gone with
  | nil => exact ⟨Nat.le_refl _, Nat.le_refl _, Nat.le_refl _, Nat.le_refl _⟩
  | cons event events ih =>
    have first := booked.grows_step event
    have later := ih (booked.step event)
    exact ⟨Nat.le_trans first.created later.created,
      Nat.le_trans first.maxIdleClosed later.maxIdleClosed,
      Nat.le_trans first.maxLifetimeClosed later.maxLifetimeClosed,
      Nat.le_trans first.idleTimeoutClosed later.idleTimeoutClosed⟩

/-- However the calls interleave, a pool whose factory has no check of its own accounts for every
connection once, and none of its counts is ever lowered. -/
theorem counts_balance (config : Config) (events : List Event) :
    Balanced ((State.ofConfig config false).after events)
        ((State.ofConfig config false).ledger events) ∧
      ∀ past, past <+: events → Grows ((State.ofConfig config false).after past).stats
        ((State.ofConfig config false).after events).stats := by
  constructor
  · have booked := (Booked.ofConfig config).after events
    rw [List.nil_append] at booked
    exact booked.balanced
  · rintro past ⟨later, rfl⟩
    have grows := ((Booked.ofConfig config).after past).grows later
    rwa [State.after, State.after, ← List.foldl_append] at grows

example : (State.ofConfig { maxSize := 3, maxIdle := 1, idleTimeout := 5 } false).ledger
    [.get 0, .get 1, .get 2, .opened 0 1, .opened 1 2, .opened 2 3, .giveBack 1 false,
      .giveBack 2 true, .lose 3, .giveBack 3 false, .tick 6, .get 3, .discarded 3 true, .opened 3 4,
      .close 9, .giveBack 4 false] =
    [(2, .overIdleCap), (3, .backClosed), (1, .pastIdleTimeout), (4, .backLate)] := by decide

end SqlProbe.Pool
