import SqlProbe.Proofs.Pool.Limits

/-!
# Opening connections in advance while others borrow

A call that opens connections in advance looks at the number of idle ones, waits for a new one, and
puts it behind them, whatever has happened in between. It has no slot and does not count the
borrowers. No other call can bring a pool beyond its limits; this one does so whenever it puts down
a connection without room.

The borrowers that deal with a connection already take up room as well. Where they are left out, a
connection put down in advance may seem to find room, and it shows only later that it has taken the
place of the one that such a borrower is about to get.
-/

namespace SqlProbe.Pool

/-- The pool keeps to the limits of a configuration; borrowers that deal with a connection already
are counted. -/
structure Within (config : Config) (s : State) : Prop where
  cap : s.idle.length ≤ config.maxIdle
  total : s.idle.length + s.loans.length + engaged s.gets ≤ config.maxSize

/-- The idle connections keep to the limits of a configuration, alone and with the borrowed ones. -/
structure Capped (config : Config) (s : State) : Prop where
  cap : s.idle.length ≤ config.maxIdle
  total : s.idle.length + s.loans.length ≤ config.maxSize

/-- A connection that becomes idle or borrowed finds room among those that are. -/
def FindsPlace (s : State) : Event → Prop
  | .warmed call connection => call ∈ s.warmUps → connection ∉ s.opened →
      s.idle.length < s.config.maxIdle ∧ s.idle.length + s.loans.length < s.config.maxSize
  | .opened call connection => s.get? call = some .opening → connection ∉ s.opened →
      s.idle.length + s.loans.length < s.config.maxSize
  | .validated call true => ∀ connection createdAt,
      s.get? call = some (.validating connection createdAt) →
      s.idle.length + s.loans.length < s.config.maxSize
  | _ => True

/-- If a step is good exactly where it is allowed, all states of a run are good exactly if every
event is allowed. -/
theorem forall_after_iff_respects {Inv Good : State → Prop} {allowed : State → Event → Prop}
    (good : ∀ s, Inv s → Good s) (kept : ∀ s event, Inv s → allowed s event → Inv (s.step event))
    (needed : ∀ s event, Good (s.step event) → allowed s event) {s : State} (inv : Inv s)
    (events : List Event) :
    (∀ past, past <+: events → Good (s.after past)) ↔ Respects allowed s events := by
  induction events generalizing s with
  | nil =>
    refine ⟨fun _ => trivial, ?_⟩
    rintro - past none
    rw [List.prefix_nil.mp none]
    exact good s inv
  | cons event events ih =>
    constructor
    · intro always
      -- The first event is allowed because the state right after it is good.
      have first := needed s event (always [event] (List.prefix_append [event] events))
      refine ⟨first, (ih (kept s event inv first)).mp fun past begins => ?_⟩
      exact always (event :: past) ((List.prefix_cons_inj event).mpr begins)
    · rintro ⟨first, respects⟩ past begins
      cases past with
      | nil => exact good s inv
      | cons next past =>
        obtain ⟨rfl, later⟩ := List.cons_prefix_cons.mp begins
        exact (ih (kept s next inv first)).mpr respects past later

section Steps

variable {s : State} {event : Event}

theorem Balance.within (balance : Balance s) : Within s.config s := ⟨balance.cap, balance.total⟩

/-- Where a connection is lent there has been room for it. -/
theorem capped_lend_iff {config : Config} {call : Nat} {loan : Loan} :
    Capped config (s.lend call loan) ↔ s.idle.length ≤ config.maxIdle ∧
      s.idle.length + s.loans.length < config.maxSize := by
  have more : (s.lend call loan).loans.length = s.loans.length + 1 := List.length_append
  constructor
  · rintro ⟨cap, total⟩
    rw [more] at total
    exact ⟨cap, total⟩
  · rintro ⟨cap, room⟩
    refine ⟨cap, ?_⟩
    rw [more]
    exact room

/-- Where a connection is put behind the idle ones there has been room for it. -/
theorem capped_putWarm_iff {config : Config} {connection : Nat} :
    Capped config ((s.noteOpened connection).putWarm connection) ↔
      s.idle.length < config.maxIdle ∧ s.idle.length + s.loans.length < config.maxSize := by
  have more : ((s.noteOpened connection).putWarm connection).idle.length = s.idle.length + 1 :=
    List.length_append
  constructor
  · rintro ⟨cap, total⟩
    rw [more] at cap total
    refine ⟨cap, ?_⟩
    change s.idle.length + 1 + s.loans.length ≤ config.maxSize at total
    omega
  · rintro ⟨cap, total⟩
    constructor
    · rw [more]
      exact cap
    · rw [more]
      change s.idle.length + 1 + s.loans.length ≤ config.maxSize
      omega

theorem step_warmed {call connection : Nat} (warming : call ∈ s.warmUps)
    (fresh : connection ∉ s.opened) : ∃ warmUps, s.step (.warmed call connection) =
      { (s.noteOpened connection).putWarm connection with warmUps } := by
  obtain ⟨warmUps, eq⟩ := warm_eq ((s.noteOpened connection).putWarm connection) call
  refine ⟨warmUps, Eq.trans ?_ eq⟩
  simp [State.step, warming, fresh]

theorem findsRoom_of_within (within : Within (s.step event).config (s.step event)) :
    FindsRoom s event := by
  cases event with
  | warmed call connection =>
    intro warming fresh
    obtain ⟨_, eq⟩ := step_warmed warming fresh
    rw [eq] at within
    have cap : (s.idle ++ [_]).length ≤ s.config.maxIdle := within.cap
    have total : (s.idle ++ [_]).length + s.loans.length + engaged s.gets ≤ s.config.maxSize :=
      within.total
    rw [List.length_append, List.length_singleton] at cap total
    omega
  | _ => trivial

theorem findsPlace_of_capped (capped : Capped (s.step event).config (s.step event)) :
    FindsPlace s event := by
  rw [step_config] at capped
  cases event with
  | warmed call connection =>
    intro warming fresh
    obtain ⟨_, eq⟩ := step_warmed warming fresh
    rw [eq] at capped
    exact capped_putWarm_iff.mp ⟨capped.cap, capped.total⟩
  | opened call connection =>
    intro found fresh
    have eq : s.step (.opened call connection) =
        (s.noteOpened connection).lend call ⟨connection, s.now⟩ := by
      simp [State.step, found, fresh]
    rw [eq] at capped
    exact (capped_lend_iff.mp capped).2
  | validated call usable =>
    cases usable with
    | false => trivial
    | true =>
      intro connection createdAt found
      have eq : s.step (.validated call true) = s.lend call ⟨connection, createdAt⟩ := by
        simp [State.step, found]
      rw [eq] at capped
      exact (capped_lend_iff.mp capped).2
  | _ => trivial

end Steps

/-! ### Idle and borrowed connections alone -/

/-- No more connections are idle than before, nor are idle and borrowed together. -/
structure Shrinks (s t : State) : Prop where
  config : t.config = s.config
  idle : t.idle.length ≤ s.idle.length
  total : t.idle.length + t.loans.length ≤ s.idle.length + s.loans.length

namespace Shrinks

variable {s t : State}

theorem same (config : t.config = s.config) (idle : t.idle = s.idle) (loans : t.loans = s.loans) :
    Shrinks s t := by
  refine ⟨config, ?_, ?_⟩ <;> simp only [idle, loans, Nat.le_refl]

theorem capped (shrinks : Shrinks s t) (capped : Capped s.config s) : Capped t.config t := by
  rw [shrinks.config]
  exact ⟨Nat.le_trans shrinks.idle capped.cap, Nat.le_trans shrinks.total capped.total⟩

theorem examine (s : State) (call : Nat) : Shrinks s (s.examine call) := by
  rcases examine_cases s call with ⟨_, eq⟩ | ⟨entry, idle, _, _, first, ⟨_, _, _, eq⟩ | eq⟩
  · rw [eq]
    exact .same rfl rfl rfl
  · have fewer : idle.length + 1 = s.idle.length := by rw [first, List.length_cons]
    rw [eq]
    refine ⟨rfl, ?_, ?_⟩
    · change idle.length ≤ s.idle.length
      omega
    · change idle.length + s.loans.length ≤ s.idle.length + s.loans.length
      omega
  · have fewer : idle.length + 1 = s.idle.length := by rw [first, List.length_cons]
    have more : (s.loans ++ [(⟨entry.connection, entry.createdAt⟩ : Loan)]).length =
        s.loans.length + 1 :=
      List.length_append
    rw [eq]
    refine ⟨rfl, ?_, ?_⟩
    · change idle.length ≤ s.idle.length
      omega
    · change idle.length + (s.loans ++ [(⟨entry.connection, entry.createdAt⟩ : Loan)]).length ≤ _
      omega

theorem startGet (s : State) (call : Nat) : Shrinks s (s.startGet call) := by
  unfold State.startGet
  split
  · exact .same rfl rfl rfl
  dsimp only
  split
  · exact .same rfl rfl rfl
  · have examined := examine (State.setGet
      { s with waiting := s.waiting + 1, gets := s.gets ++ [(call, .queued)], free := s.free - 1 }
      call .granted) call
    exact ⟨examined.config, examined.idle, examined.total⟩

theorem leave (s : State) (call : Nat) : Shrinks s (s.leave call) := by
  rcases leave_cases s call with eq | eq
  · rw [eq]
    exact .same rfl rfl rfl
  · obtain ⟨_, _, eq', -⟩ := release_spec { s with gets := others call s.gets }
    rw [eq, eq']
    exact .same rfl rfl rfl

theorem fail (s : State) (call : Nat) (cause : Error) : Shrinks s (s.fail call cause) :=
  have left := leave s call
  ⟨left.config, left.idle, left.total⟩

theorem noteClosed (s : State) (connection : Nat) (closed : Bool) :
    Shrinks s (s.noteClosed connection closed) := by
  rw [noteClosed_eq]
  exact .same rfl rfl rfl

theorem finishNext (s : State) (call : Nat) (rest : List Retiring) :
    Shrinks s (s.finishNext call rest) := by
  obtain ⟨_, eq⟩ := finishNext_eq s call rest
  rw [eq]
  exact .same rfl rfl rfl

theorem drainNext (s : State) (call : Nat) (wholePool : Bool) (rest : List Nat) :
    Shrinks s (s.drainNext call wholePool rest) := by
  obtain ⟨_, _, eq⟩ := drainNext_eq s call wholePool rest
  rw [eq]
  exact .same rfl rfl rfl

theorem drain (s : State) (call : Nat) (wholePool : Bool) :
    Shrinks s (s.drain call wholePool) := by
  obtain ⟨_, _, eq⟩ := drain_eq s call wholePool
  rw [eq]
  refine ⟨rfl, Nat.zero_le _, ?_⟩
  change 0 + s.loans.length ≤ _
  omega

theorem warm (s : State) (call : Nat) : Shrinks s (s.warm call) := by
  obtain ⟨_, eq⟩ := warm_eq s call
  rw [eq]
  exact .same rfl rfl rfl

end Shrinks

theorem Capped.giveBack {s : State} (capped : Capped s.config s) {loan : Loan}
    (lent : loan ∈ s.loans) (outside : Bool) :
    let t := ({ s with loans := s.loans.erase loan, active := s.active - 1 }.takeBack loan
      outside).release
    Capped t.config t := by
  have fewer : (s.loans.erase loan).length + 1 = s.loans.length := by
    have some := List.length_pos_of_mem lent
    rw [List.length_erase_of_mem lent]
    omega
  have cap := capped.cap
  have total := capped.total
  obtain ⟨_, _, released, -⟩ := release_spec
    ({ s with loans := s.loans.erase loan, active := s.active - 1 }.takeBack loan outside)
  intro t
  change t = _ at released
  rw [released]
  rcases takeBack_cases { s with loans := s.loans.erase loan, active := s.active - 1 } loan outside
    with ⟨_, eq⟩ | ⟨pastLifetime, overIdleCap, eq⟩ | ⟨room, eq⟩
  · rw [eq]
    refine ⟨cap, ?_⟩
    change s.idle.length + (s.loans.erase loan).length ≤ s.config.maxSize
    omega
  · obtain ⟨_, _, eq'⟩ := retire_eq
      { s with loans := s.loans.erase loan, active := s.active - 1, pastLifetime, overIdleCap }
      loan.connection outside
    rw [eq, eq']
    refine ⟨cap, ?_⟩
    change s.idle.length + (s.loans.erase loan).length ≤ s.config.maxSize
    omega
  · rw [eq]
    constructor
    · change (s.idle ++ [_]).length ≤ s.config.maxIdle
      rw [List.length_append, List.length_singleton]
      exact room
    · change (s.idle ++ [_]).length + (s.loans.erase loan).length ≤ s.config.maxSize
      rw [List.length_append, List.length_singleton]
      omega

/-- Only where a connection becomes idle or borrowed can a limit be passed. -/
theorem Capped.step {s : State} (capped : Capped s.config s) {event : Event}
    (place : FindsPlace s event) : Capped (s.step event).config (s.step event) := by
  have same {t : State} (config : t.config = s.config) (idle : t.idle = s.idle)
      (loans : t.loans = s.loans) : Capped t.config t :=
    (Shrinks.same config idle loans).capped capped
  have effect := step_effect s event
  generalize s.step event = t at effect ⊢
  cases effect with
  | nothing => exact capped
  | tick => exact same rfl rfl rfl
  | lose => exact (Shrinks.noteClosed s _ true).capped capped
  | get => exact (Shrinks.startGet s _).capped capped
  | turnedAway => exact (Shrinks.fail s _ _).capped capped
  | turn => exact (Shrinks.examine s _).capped capped
  | usable found => exact capped_lend_iff.mpr ⟨capped.cap, place _ _ found⟩
  | unusable => exact same rfl rfl rfl
  | @discarded call connection closed =>
    exact (Shrinks.examine _ call).capped ((Shrinks.noteClosed s connection closed).capped capped)
  | opened found fresh => exact capped_lend_iff.mpr ⟨capped.cap, place found fresh⟩
  | refused => exact (Shrinks.fail s _ _).capped capped
  | expired => exact (Shrinks.fail s _ _).capped capped
  | cancelled call => exact (Shrinks.leave s call).capped capped
  | givenBack outside lent => exact capped.giveBack lent outside
  | @retired connection closed =>
    have ended : Capped s.config { s with closings := s.closings.erase connection } :=
      ⟨capped.cap, capped.total⟩
    exact (Shrinks.noteClosed _ connection closed).capped ended
  | @warmUp call => exact (Shrinks.warm s call).capped capped
  | @warmed call connection warming fresh =>
    exact (Shrinks.warm _ call).capped (capped_putWarm_iff.mpr (place warming fresh))
  | warmFailed => exact same rfl rfl rfl
  | closeIdle => exact (Shrinks.drain s _ false).capped capped
  | close =>
    have shut : Capped s.config { s with shut := true } := ⟨capped.cap, capped.total⟩
    exact (Shrinks.drain _ _ true).capped shut
  | drained closed =>
    exact (Shrinks.drainNext _ _ _ _).capped ((Shrinks.noteClosed s _ closed).capped capped)
  | finished closed =>
    exact (Shrinks.finishNext _ _ _).capped ((Shrinks.noteClosed s _ closed).capped capped)
  | joined => exact (Shrinks.finishNext s _ _).capped capped

/-- Whatever calls there are and however they interleave, a pool keeps to its limits all the time
exactly if every connection that is opened in advance finds room when it is put down. Where
borrowers are counted only once they have their connection, room is to be found whenever a
connection becomes idle or borrowed. -/
theorem within_iff_findsRoom (config : Config) (ownCheck : Bool) (events : List Event) :
    ((∀ past, past <+: events → Within config ((State.ofConfig config ownCheck).after past)) ↔
      Respects FindsRoom (State.ofConfig config ownCheck) events) ∧
    ((∀ past, past <+: events → Capped config ((State.ofConfig config ownCheck).after past)) ↔
      Respects FindsPlace (State.ofConfig config ownCheck) events) := by
  have kept (past : List Event) :
      ((State.ofConfig config ownCheck).after past).config = config := after_config _ past
  have within := forall_after_iff_respects (fun s (balance : Balance s) => balance.within)
    (fun s event balance => balance.step) (fun s event => findsRoom_of_within)
    (Balance.ofConfig config ownCheck) events
  have capped := forall_after_iff_respects (fun s (capped : Capped s.config s) => capped)
    (fun s event capped => capped.step) (fun s event => findsPlace_of_capped)
    (s := State.ofConfig config ownCheck) ⟨Nat.zero_le _, Nat.zero_le _⟩ events
  simp only [kept] at within capped
  exact ⟨within, capped⟩

/-- One connection is allowed and is borrowed when another one is opened in advance. Two calls that
open connections in advance at the same time bring the idle ones beyond their limit as well. -/
theorem limits_exceeded_in_advance :
    (¬ ∀ (config : Config) (events : List Event), config.Built →
      (State.after (.ofConfig config false) events).idle.length +
        (State.after (.ofConfig config false) events).loans.length ≤ config.maxSize) ∧
    ¬ ∀ (config : Config) (events : List Event), config.Built →
      (State.after (.ofConfig config false) events).idle.length ≤ config.maxIdle := by
  have built : Config.Built { minSize := 1, maxSize := 1, maxIdle := 1, maxLifetime := none } :=
    @Config.Built.ofSizes 1 1 _ rfl
  constructor
  · intro kept
    have total := kept _ [.get 0, .opened 0 1, .warmUp 1, .warmed 1 2] built
    revert total
    decide
  · intro kept
    have cap := kept _ [.warmUp 0, .warmUp 1, .warmed 0 1, .warmed 1 2] built
    revert cap
    decide

end SqlProbe.Pool
