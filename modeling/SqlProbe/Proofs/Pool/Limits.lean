import SqlProbe.Proofs.Pool.Config
import SqlProbe.Proofs.Pool.Effects

/-!
# How many connections there are at once

Slots bound the borrowers, not the idle connections, and yet a pool never has more connections than
slots. A connection is opened for a borrower only when none is idle: then whoever has a connection
has a slot too. Every other step moves a connection from one place to another or lets it go. For
this the bound has to count the borrowers that deal with a connection already, beside the idle
connections and the borrowed ones.
-/

namespace SqlProbe.Pool

/-- Every slot is free, is a borrower's or comes with a loan, and the connections are within the
limits. -/
structure Balance (s : State) : Prop where
  distinct : (s.gets.map Prod.fst).Nodup
  slots : s.free + s.loans.length + slotted s.gets = s.config.maxSize
  active : s.active = s.loans.length
  total : s.idle.length + s.loans.length + engaged s.gets ≤ s.config.maxSize
  cap : s.idle.length ≤ s.config.maxIdle

/-- The borrower may deal with a connection: it does already, or there is room for one more. -/
def Room (s : State) (get : Get) : Prop :=
  s.idle.length + s.loans.length + engaged s.gets + 1 ≤ s.config.maxSize + get.isEngaged.toNat

namespace Balance

variable {s : State} {call : Nat} {get : Get}

theorem room_of_isEngaged (balance : Balance s) (busy : get.isEngaged = true) : Room s get := by
  have total := balance.total
  simp only [Room, busy, Bool.toNat_true]
  omega

/-- Where nothing is idle, the slots alone bound the connections. -/
theorem room_of_idle_nil (balance : Balance s) (found : s.get? call = some get)
    (slot : get.hasSlot = true) (none : s.idle = []) : Room s get := by
  have exchange := exchange_setGet balance.distinct found .opening
  have slots := exchange.slotted_eq
  have busy := exchange.engaged_eq
  have fewer := engaged_le_slotted (s.setGet call .opening).gets
  have shared := balance.slots
  have slot' : Get.opening.hasSlot = true := rfl
  have busy' : Get.opening.isEngaged = true := rfl
  simp only [Option.any_some, slot, slot', busy', Bool.toNat_true] at slots busy
  simp only [Room, none, List.length_nil]
  omega

theorem setGet (balance : Balance s) (found : s.get? call = some get) (slot : get.hasSlot = true)
    (room : Room s get) {new : Get} (slot' : new.hasSlot = true) : Balance (s.setGet call new) := by
  have exchange := exchange_setGet balance.distinct found new
  have slots := exchange.slotted_eq
  have busy := exchange.engaged_eq
  have shared := balance.slots
  have most := Bool.toNat_le new.isEngaged
  simp only [Option.any_some, slot, slot'] at slots busy
  unfold Room at room
  refine ⟨exchange.distinct balance.distinct, ?_, balance.active, ?_, balance.cap⟩
  · change s.free + s.loans.length + slotted (s.setGet call new).gets = s.config.maxSize
    omega
  · change s.idle.length + s.loans.length + engaged (s.setGet call new).gets ≤ s.config.maxSize
    omega

theorem lend (balance : Balance s) (found : s.get? call = some get) (slot : get.hasSlot = true)
    (room : Room s get) (loan : Loan) : Balance (s.lend call loan) := by
  have exchange := exchange_lend balance.distinct found loan
  have slots := exchange.slotted_eq
  have busy := exchange.engaged_eq
  have shared := balance.slots
  have more : (s.lend call loan).loans.length = s.loans.length + 1 := List.length_append
  simp only [Option.any_some, Option.any_none, slot, Bool.toNat_true, Bool.toNat_false,
    Nat.add_zero] at slots busy
  unfold Room at room
  refine ⟨exchange.distinct balance.distinct, ?_, ?_, ?_, balance.cap⟩
  · change s.free + _ + _ = s.config.maxSize
    omega
  · change s.active + 1 = _
    rw [more, balance.active]
  · change s.idle.length + _ + _ ≤ s.config.maxSize
    omega

theorem examine (balance : Balance s) (found : s.get? call = some get)
    (slot : get.hasSlot = true) : Balance (s.examine call) := by
  rcases examine_cases s call with ⟨none, eq⟩ |
    ⟨entry, idle, pastLifetime, pastIdleTimeout, first, offered⟩
  · rw [eq]
    exact balance.setGet found slot (balance.room_of_idle_nil found slot none) rfl
  · have total := balance.total
    have cap := balance.cap
    rw [first, List.length_cons] at total cap
    have room : idle.length + s.loans.length + engaged s.gets + 1 ≤
        s.config.maxSize + get.isEngaged.toNat := by omega
    have popped : idle.length + s.loans.length + engaged s.gets ≤ s.config.maxSize := by omega
    have cap' : idle.length ≤ s.config.maxIdle := by omega
    rcases offered with ⟨new, busy, _, eq⟩ | eq
    · rw [eq]
      refine setGet (s := { s with idle, pastLifetime, pastIdleTimeout }) ?_ found slot room
        (Get.hasSlot_of_isEngaged busy)
      exact ⟨balance.distinct, balance.slots, balance.active, popped, cap'⟩
    · rw [eq]
      refine lend (s := { s with idle }) ?_ found slot room _
      exact ⟨balance.distinct, balance.slots, balance.active, popped, cap'⟩

theorem leave (balance : Balance s) (call : Nat) : Balance (s.leave call) := by
  cases found : s.get? call with
  | none =>
    rw [leave_of_absent found]
    exact balance
  | some get =>
    obtain ⟨free, gets, eq, slots, busy, _, distinct⟩ := leave_spec balance.distinct found
    have shared := balance.slots
    have total := balance.total
    rw [eq]
    refine ⟨distinct, ?_, balance.active, ?_, balance.cap⟩
    · change free + s.loans.length + slotted gets = s.config.maxSize
      omega
    · change s.idle.length + s.loans.length + engaged gets ≤ s.config.maxSize
      omega

theorem fail (balance : Balance s) (call : Nat) (cause : Error) : Balance (s.fail call cause) :=
  have left := balance.leave call
  ⟨left.distinct, left.slots, left.active, left.total, left.cap⟩

theorem startGet (balance : Balance s) (new : s.get? call = none) : Balance (s.startGet call) := by
  rcases startGet_cases balance.distinct new with ⟨_, _, eq⟩ |
    ⟨_, free, get, gets, slot, idle, exchange, distinct, found, _, started⟩
  · rw [eq]
    exact ⟨balance.distinct, balance.slots, balance.active, balance.total, balance.cap⟩
  · have slots := exchange.slotted_eq
    have busy := exchange.engaged_eq
    have shared := balance.slots
    have total := balance.total
    simp only [Option.any_some, Option.any_none, idle, Bool.toNat_false, Nat.add_zero] at slots busy
    have arrived : Balance { s with waiting := s.waiting + 1, free, gets } := by
      refine ⟨distinct, ?_, balance.active, ?_, balance.cap⟩
      · change free + s.loans.length + slotted gets = s.config.maxSize
        omega
      · change s.idle.length + s.loans.length + engaged gets ≤ s.config.maxSize
        omega
    rcases started with eq | ⟨slot, eq⟩
    · rw [eq]
      exact arrived
    · rw [eq]
      exact arrived.examine found slot

/-- A slot that comes back from a loan is free or is a borrower's. -/
theorem release (distinct : (s.gets.map Prod.fst).Nodup)
    (slots : s.free + s.loans.length + slotted s.gets + 1 = s.config.maxSize)
    (active : s.active = s.loans.length)
    (total : s.idle.length + s.loans.length + engaged s.gets ≤ s.config.maxSize)
    (cap : s.idle.length ≤ s.config.maxIdle) : Balance s.release := by
  obtain ⟨free, gets, eq, slots', busy, _, distinct'⟩ := release_spec s
  rw [eq]
  refine ⟨distinct' distinct, ?_, active, ?_, cap⟩
  · change free + s.loans.length + slotted gets = s.config.maxSize
    omega
  · change s.idle.length + s.loans.length + engaged gets ≤ s.config.maxSize
    omega

theorem giveBack (balance : Balance s) {loan : Loan} (lent : loan ∈ s.loans) (outside : Bool) :
    Balance ({ s with loans := s.loans.erase loan, active := s.active - 1 }.takeBack loan
      outside).release := by
  have fewer : (s.loans.erase loan).length + 1 = s.loans.length := by
    have some := List.length_pos_of_mem lent
    rw [List.length_erase_of_mem lent]
    omega
  have shared := balance.slots
  have active := balance.active
  have total := balance.total
  have slots : s.free + (s.loans.erase loan).length + slotted s.gets + 1 = s.config.maxSize := by
    omega
  have active' : s.active - 1 = (s.loans.erase loan).length := by omega
  have total' : s.idle.length + (s.loans.erase loan).length + engaged s.gets ≤
      s.config.maxSize := by omega
  rcases takeBack_cases { s with loans := s.loans.erase loan, active := s.active - 1 } loan outside
    with ⟨_, eq⟩ | ⟨pastLifetime, overIdleCap, eq⟩ | ⟨room, eq⟩
  · rw [eq]
    exact release balance.distinct slots active' total' balance.cap
  · obtain ⟨_, _, eq'⟩ := retire_eq
      { s with loans := s.loans.erase loan, active := s.active - 1, pastLifetime, overIdleCap }
      loan.connection outside
    rw [eq, eq']
    exact release balance.distinct slots active' total' balance.cap
  · rw [eq]
    refine release balance.distinct slots active' ?_ ?_
    · change (s.idle ++ [_]).length + (s.loans.erase loan).length + engaged s.gets ≤ s.config.maxSize
      rw [List.length_append, List.length_singleton]
      omega
    · change (s.idle ++ [_]).length ≤ s.config.maxIdle
      rw [List.length_append, List.length_singleton]
      exact room

/-- What only closes idle connections keeps the balance. -/
theorem fewer (balance : Balance s) {t : State} (idle : t.idle.length ≤ s.idle.length)
    (same : t.config = s.config ∧ t.free = s.free ∧ t.loans = s.loans ∧ t.gets = s.gets ∧
      t.active = s.active) : Balance t := by
  obtain ⟨config, free, loans, gets, active⟩ := same
  have total := balance.total
  have cap := balance.cap
  refine ⟨?_, ?_, ?_, ?_, ?_⟩
  · rw [gets]
    exact balance.distinct
  · rw [free, loans, gets, config]
    exact balance.slots
  · rw [active, loans]
    exact balance.active
  · rw [loans, gets, config]
    omega
  · rw [config]
    omega

theorem noteClosed (balance : Balance s) (connection : Nat) (closed : Bool) :
    Balance (s.noteClosed connection closed) := by
  rw [noteClosed_eq]
  exact balance.fewer (Nat.le_refl _) ⟨rfl, rfl, rfl, rfl, rfl⟩

theorem finishNext (balance : Balance s) (call : Nat) (rest : List Retiring) :
    Balance (s.finishNext call rest) := by
  obtain ⟨_, eq⟩ := finishNext_eq s call rest
  rw [eq]
  exact balance.fewer (Nat.le_refl _) ⟨rfl, rfl, rfl, rfl, rfl⟩

theorem drainNext (balance : Balance s) (call : Nat) (wholePool : Bool) (rest : List Nat) :
    Balance (s.drainNext call wholePool rest) := by
  obtain ⟨_, _, eq⟩ := drainNext_eq s call wholePool rest
  rw [eq]
  exact balance.fewer (Nat.le_refl _) ⟨rfl, rfl, rfl, rfl, rfl⟩

theorem drain (balance : Balance s) (call : Nat) (wholePool : Bool) :
    Balance (s.drain call wholePool) := by
  obtain ⟨_, _, eq⟩ := drain_eq s call wholePool
  rw [eq]
  exact balance.fewer (Nat.zero_le _) ⟨rfl, rfl, rfl, rfl, rfl⟩

theorem warm (balance : Balance s) (call : Nat) : Balance (s.warm call) := by
  obtain ⟨_, eq⟩ := warm_eq s call
  rw [eq]
  exact balance.fewer (Nat.le_refl _) ⟨rfl, rfl, rfl, rfl, rfl⟩

theorem putWarm (balance : Balance s) (cap : s.idle.length < s.config.maxIdle)
    (total : s.idle.length + s.loans.length + engaged s.gets < s.config.maxSize)
    (connection : Nat) : Balance ((s.noteOpened connection).putWarm connection) := by
  have more : ((s.noteOpened connection).putWarm connection).idle.length = s.idle.length + 1 :=
    List.length_append
  refine ⟨balance.distinct, balance.slots, balance.active, ?_, ?_⟩
  · change _ + s.loans.length + engaged s.gets ≤ s.config.maxSize
    omega
  · change _ ≤ s.config.maxIdle
    omega

end Balance

/-! ### Opening connections in advance -/

/-- A connection that has been opened in advance finds room: among the idle ones, and among all. -/
def FindsRoom (s : State) : Event → Prop
  | .warmed call connection => call ∈ s.warmUps → connection ∉ s.opened →
      s.idle.length < s.config.maxIdle ∧
        s.idle.length + s.loans.length + engaged s.gets < s.config.maxSize
  | _ => True

/-- Only a connection that is opened in advance can upset the balance. -/
theorem Balance.step {s : State} (balance : Balance s) {event : Event} (room : FindsRoom s event) :
    Balance (s.step event) := by
  have effect := step_effect s event
  generalize s.step event = t at effect ⊢
  cases effect with
  | nothing => exact balance
  | tick => exact balance.fewer (Nat.le_refl _) ⟨rfl, rfl, rfl, rfl, rfl⟩
  | lose => exact balance.noteClosed _ true
  | get new => exact balance.startGet new
  | turnedAway => exact balance.fail _ _
  | turn found => exact balance.examine found rfl
  | usable found => exact balance.lend found rfl (balance.room_of_isEngaged rfl) _
  | unusable found => exact balance.setGet found rfl (balance.room_of_isEngaged rfl) rfl
  | @discarded call connection closed found =>
    rw [← noteClosed_get? s call connection closed] at found
    exact (balance.noteClosed connection closed).examine found rfl
  | @opened call connection found =>
    have noted : Balance (s.noteOpened connection) :=
      balance.fewer (Nat.le_refl _) ⟨rfl, rfl, rfl, rfl, rfl⟩
    exact noted.lend found rfl (noted.room_of_isEngaged rfl) _
  | refused => exact balance.fail _ _
  | expired => exact balance.fail _ _
  | cancelled => exact balance.leave _
  | givenBack outside lent => exact balance.giveBack lent outside
  | retired =>
    refine Balance.noteClosed ?_ _ _
    exact balance.fewer (Nat.le_refl _) ⟨rfl, rfl, rfl, rfl, rfl⟩
  | warmUp => exact balance.warm _
  | warmed warming fresh =>
    obtain ⟨cap, total⟩ := room warming fresh
    exact (balance.putWarm cap total _).warm _
  | warmFailed => exact balance.fewer (Nat.le_refl _) ⟨rfl, rfl, rfl, rfl, rfl⟩
  | closeIdle => exact balance.drain _ false
  | close =>
    refine Balance.drain ?_ _ true
    exact balance.fewer (Nat.le_refl _) ⟨rfl, rfl, rfl, rfl, rfl⟩
  | drained => exact (balance.noteClosed _ _).drainNext _ _ _
  | finished => exact (balance.noteClosed _ _).finishNext _ _
  | joined => exact balance.finishNext _ _

theorem Balance.ofConfig (config : Config) (ownCheck : Bool) :
    Balance (State.ofConfig config ownCheck) where
  distinct := List.nodup_nil
  slots := rfl
  active := rfl
  total := Nat.zero_le _
  cap := Nat.zero_le _

/-- Connections are opened in advance by one call at a time and while nobody borrows. That is so
where the call comes before the first borrower, and borrowers come when it has ended. -/
def WarmsAlone (s : State) : Event → Prop
  | .get _ => s.warmUps = []
  | .warmUp _ => s.warmUps = [] ∧ s.gets = [] ∧ s.loans = []
  | _ => True

instance (s : State) : (event : Event) → Decidable (WarmsAlone s event)
  | .get _ => inferInstanceAs (Decidable (s.warmUps = []))
  | .warmUp _ => inferInstanceAs (Decidable (s.warmUps = [] ∧ s.gets = [] ∧ s.loans = []))
  | .tick _ | .lose _ | .resume _ | .validated _ _ | .discarded _ _ | .opened _ _ | .refused _ _
  | .expire _ | .cancel _ | .giveBack _ _ | .retired _ _ | .warmed _ _ | .warmFailed _ | .closeIdle _
  | .close _ | .drained _ _ | .joined _ => .isTrue trivial

/-- What is true while a call opens connections in advance. -/
structure Warming (s : State) (call : Nat) : Prop where
  single : s.warmUps = [call]
  alone : s.gets = []
  unlent : s.loans = []
  wanting : s.idle.length < s.config.warmTarget

/-- A call that opens connections in advance goes on as long as it wants more of them. -/
theorem warming_warm {s : State} {call : Nat} (alone : s.gets = []) (unlent : s.loans = [])
    (warmUps : s.warmUps = [] ∨ s.warmUps = [call]) :
    (s.warm call).warmUps = [] ∨ ∃ call', Warming (s.warm call) call' := by
  unfold State.warm
  split
  · left
    change s.warmUps.erase call = []
    rcases warmUps with none | single
    · rw [none, List.erase_nil]
    · rw [single, List.erase_cons_head]
  · next wanting =>
    have wanting := Nat.lt_of_not_le wanting
    right
    rcases warmUps with none | single
    · rw [none]
      exact ⟨call, rfl, alone, unlent, wanting⟩
    · rw [if_pos (by rw [single, List.contains_iff_mem]; exact List.mem_singleton_self call)]
      exact ⟨call, single, alone, unlent, wanting⟩

/-- Whoever opens connections in advance may fail, or be told to stop, at any time. -/
theorem Warming.failed {s : State} {call : Nat} (warming : Warming s call) (other : Nat) :
    s.warmUps.erase other = [] ∨
      ∃ call', Warming { s with warmUps := s.warmUps.erase other } call' := by
  by_cases same : call = other
  · left
    rw [warming.single, same, List.erase_cons_head]
  · right
    refine ⟨call, ?_, warming.alone, warming.unlent, warming.wanting⟩
    change s.warmUps.erase other = [call]
    rw [warming.single, List.erase_cons_tail (by simpa using same), List.erase_nil]

/-- What does no more than close connections leaves a call alone that opens them in advance. -/
theorem Warming.fewer {s t : State} {call : Nat} (warming : Warming s call)
    (idle : t.idle.length ≤ s.idle.length) (same : t.config = s.config ∧ t.loans = s.loans ∧
      t.gets = s.gets ∧ t.warmUps = s.warmUps) : t.warmUps = [] ∨ ∃ call', Warming t call' := by
  obtain ⟨config, loans, gets, warmUps⟩ := same
  have wanting := warming.wanting
  refine .inr ⟨call, warmUps.trans warming.single, gets.trans warming.alone,
    loans.trans warming.unlent, ?_⟩
  rw [config]
  omega

/-- While connections are opened in advance nobody has come to borrow. -/
theorem Warming.step {s : State} {call : Nat} (warming : Warming s call) {event : Event}
    (allowed : WarmsAlone s event) :
    (s.step event).warmUps = [] ∨ ∃ call', Warming (s.step event) call' := by
  have absent (other : Nat) : s.get? other = none := by rw [State.get?, warming.alone]; rfl
  have busy : s.warmUps ≠ [] := by rw [warming.single]; exact List.cons_ne_nil _ _
  have effect := step_effect s event
  generalize s.step event = t at effect ⊢
  cases effect with
  | nothing => exact .inr ⟨call, warming⟩
  | tick => exact warming.fewer (Nat.le_refl _) ⟨rfl, rfl, rfl, rfl⟩
  | lose => exact warming.fewer (Nat.le_refl _) ⟨rfl, rfl, rfl, rfl⟩
  | get => exact absurd allowed busy
  | turnedAway found => rw [absent] at found; contradiction
  | turn found => rw [absent] at found; contradiction
  | usable found => rw [absent] at found; contradiction
  | unusable found => rw [absent] at found; contradiction
  | discarded _ found => rw [absent] at found; contradiction
  | opened found => rw [absent] at found; contradiction
  | refused _ found => rw [absent] at found; contradiction
  | expired found => rw [absent] at found; contradiction
  | cancelled call' =>
    rw [leave_of_absent (absent call')]
    exact .inr ⟨call, warming⟩
  | givenBack _ lent => rw [warming.unlent] at lent; contradiction
  | retired =>
    rw [noteClosed_eq]
    exact warming.fewer (Nat.le_refl _) ⟨rfl, rfl, rfl, rfl⟩
  | warmUp => exact absurd allowed.1 busy
  | @warmed call' connection member =>
    rw [warming.single, List.mem_singleton] at member
    subst member
    exact warming_warm warming.alone warming.unlent (.inr warming.single)
  | warmFailed other => exact warming.failed other
  | @closeIdle call =>
    obtain ⟨_, _, eq⟩ := drain_eq s call false
    rw [eq]
    exact warming.fewer (Nat.zero_le _) ⟨rfl, rfl, rfl, rfl⟩
  | @close call =>
    obtain ⟨_, _, eq⟩ := drain_eq { s with shut := true } call true
    rw [eq]
    exact warming.fewer (Nat.zero_le _) ⟨rfl, rfl, rfl, rfl⟩
  | drained closed =>
    obtain ⟨_, _, eq⟩ := drainNext_eq (s.noteClosed _ closed) _ _ _
    rw [eq, noteClosed_eq]
    exact warming.fewer (Nat.le_refl _) ⟨rfl, rfl, rfl, rfl⟩
  | finished closed =>
    obtain ⟨_, eq⟩ := finishNext_eq (s.noteClosed _ closed) _ _
    rw [eq, noteClosed_eq]
    exact warming.fewer (Nat.le_refl _) ⟨rfl, rfl, rfl, rfl⟩
  | joined =>
    obtain ⟨_, eq⟩ := finishNext_eq s _ _
    rw [eq]
    exact warming.fewer (Nat.le_refl _) ⟨rfl, rfl, rfl, rfl⟩

/-- A pool within its limits, in which whoever opens connections in advance does so alone. -/
structure Limited (config : Config) (s : State) : Prop where
  balance : Balance s
  config : s.config = config
  warming : s.warmUps = [] ∨ ∃ call, Warming s call

namespace Limited

variable {config : Config} {s : State}

/-- Nobody borrows while connections are opened in advance, and so there is room for them. -/
theorem findsRoom (limited : Limited config s) (ordered : config.Ordered) (event : Event) :
    FindsRoom s event := by
  cases event with
  | warmed call connection =>
    rintro member -
    rcases limited.warming with quiet | ⟨call', warming⟩
    · rw [quiet] at member
      contradiction
    · have fits := ordered.maxIdle
      have wanting := Nat.lt_of_lt_of_le warming.wanting (Nat.min_le_right _ _)
      have config' := limited.config
      refine ⟨wanting, ?_⟩
      rw [warming.alone, warming.unlent, config']
      rw [config'] at wanting
      change s.idle.length + 0 + 0 < config.maxSize
      omega
  | _ => trivial

/-- Where nothing is opened in advance, it begins only when told to. -/
theorem warming_step (limited : Limited config s) {event : Event} (allowed : WarmsAlone s event) :
    (s.step event).warmUps = [] ∨ ∃ call, Warming (s.step event) call := by
  rcases limited.warming with quiet | ⟨call, warming⟩
  · cases told : event.warms with
    | false => exact .inl (List.subset_nil.mp (quiet ▸ (step_continues s told).warmUps))
    | true =>
      cases event with
      | warmUp call =>
        obtain ⟨-, alone, unlent⟩ := allowed
        rw [State.step, if_neg (by rw [quiet]; exact Bool.false_ne_true)]
        exact warming_warm alone unlent (.inl quiet)
      | _ => contradiction
  · exact warming.step allowed

theorem step (ordered : config.Ordered) (event : Event) (allowed : WarmsAlone s event)
    (limited : Limited config s) : Limited config (s.step event) where
  balance := limited.balance.step (limited.findsRoom ordered event)
  config := (step_config s event).trans limited.config
  warming := limited.warming_step allowed

theorem ofConfig (config : Config) (ownCheck : Bool) :
    Limited config (State.ofConfig config ownCheck) where
  balance := .ofConfig config ownCheck
  config := rfl
  warming := .inl rfl

end Limited

/-- A pool never has more connections than its configuration allows: the idle connections, the
borrowed ones and the borrowers that deal with one number at most `maxSize`, the idle ones at most
`maxIdle`, and what the pool tells of itself agrees. -/
theorem connections_within_limits {config : Config} (built : config.Built) (ownCheck : Bool)
    {events : List Event} (ordered : Respects WarmsAlone (State.ofConfig config ownCheck) events) :
    let s := (State.ofConfig config ownCheck).after events
    s.idle.length + s.loans.length + engaged s.gets ≤ config.maxSize ∧
      s.idle.length ≤ config.maxIdle ∧ s.stats.total ≤ s.stats.maxOpen := by
  have limited := after_invariant
    (fun s event allowed => Limited.step (s := s) built.ordered event allowed) ordered
    (Limited.ofConfig config ownCheck)
  intro s
  have balance : Balance s := limited.balance
  have config' : s.config = config := limited.config
  have total := balance.total
  rw [config'] at total
  refine ⟨total, config' ▸ balance.cap, ?_⟩
  change s.idle.length + s.active ≤ s.config.maxSize
  rw [balance.active, config']
  omega

/-- Two connections at most, one opened in advance, three borrowers, of which the last has to wait,
and the closing of the pool while two connections are borrowed. -/
theorem connections_within_limits_two :
    let config : Config := { minSize := 1, maxSize := 2, maxIdle := 2, maxLifetime := none }
    let events : List Event := [.warmUp 0, .warmed 0 0, .get 1, .get 2, .get 3, .opened 2 1,
      .giveBack 0 false, .resume 3, .close 4, .giveBack 1 true]
    config.Built ∧ Respects WarmsAlone (State.ofConfig config false) events ∧
      (let s := (State.ofConfig config false).after events
      s.idle.length + s.loans.length + engaged s.gets ≤ config.maxSize ∧
        s.idle.length ≤ config.maxIdle ∧ s.stats.total ≤ s.stats.maxOpen) :=
  have built : Config.Built { minSize := 1, maxSize := 2, maxIdle := 2, maxLifetime := none } :=
    @Config.Built.ofSizes 1 2 _ rfl
  have ordered : Respects WarmsAlone
      (State.ofConfig { minSize := 1, maxSize := 2, maxIdle := 2, maxLifetime := none } false)
      [.warmUp 0, .warmed 0 0, .get 1, .get 2, .get 3, .opened 2 1, .giveBack 0 false, .resume 3,
        .close 4, .giveBack 1 true] := by decide
  ⟨built, ordered, connections_within_limits built false ordered⟩

end SqlProbe.Pool
