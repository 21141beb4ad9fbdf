import SqlProbe.Proofs.Pool.Holdings
import SqlProbe.Proofs.Pool.Limits

/-!
# What borrowers leave behind

A borrower's call ends with a connection, with an error of the factory, with a closed pool, or with
its patience, and the last of these wherever it waits: in the queue, for the closing of an idle
connection, for a new one. However it ends, the slot that it had is a loan's, another borrower's or
free, and the counts of the pool are those of the calls in progress and of the connections that are
borrowed. Only a call that goes away without a word stays in the count.
-/

namespace SqlProbe.Pool

/-- A borrower goes away without a word. -/
def Event.cancels : Event → Bool
  | cancel _ => true
  | _ => false

/-! ### The number of calls in progress -/

section Calls

variable {s : State} {call : Nat} {get : Get}

theorem length_setGet (s : State) (call : Nat) (new : Get) :
    (s.setGet call new).gets.length = s.gets.length := List.length_map _

theorem length_others (distinct : (s.gets.map Prod.fst).Nodup) (found : s.get? call = some get) :
    (others call s.gets).length + 1 = s.gets.length := (perm_others distinct found).length_eq.symm

theorem length_grantFirst {gets gets' : List (Nat × Get)} (granted : grantFirst gets = some gets') :
    gets'.length = gets.length := by
  obtain ⟨call, rest, before, after⟩ := exchange_grantFirst granted
  rw [before.length_eq, after.length_eq]
  rfl

theorem length_release (s : State) : s.release.gets.length = s.gets.length := by
  unfold State.release
  split
  · next gets granted =>
    split at granted
    · contradiction
    · exact length_grantFirst granted
  · rfl

theorem length_leave (distinct : (s.gets.map Prod.fst).Nodup) (found : s.get? call = some get) :
    (s.leave call).gets.length + 1 = s.gets.length := by
  rw [← length_others distinct found]
  rcases leave_cases s call with eq | eq
  · rw [eq]
  · rw [eq, length_release]

end Calls

/-! ### The count of those that wait -/

/-- The count of borrowers that wait is the number of their calls. -/
def Counted (s : State) : Prop := s.waiting = s.gets.length

namespace Counted

variable {s t : State} {call : Nat} {get : Get}

theorem same (counted : Counted s) (waiting : t.waiting = s.waiting) (gets : t.gets = s.gets) :
    Counted t := by
  rw [Counted, waiting, gets]
  exact counted

/-- A call that ends is taken off the count. -/
theorem ended (counted : Counted s) (waiting : t.waiting = s.waiting - 1)
    (gets : t.gets.length + 1 = s.gets.length) : Counted t := by
  unfold Counted at counted ⊢
  omega

theorem setGet (counted : Counted s) (call : Nat) (new : Get) : Counted (s.setGet call new) :=
  Eq.trans counted (length_setGet s call new).symm

theorem lend (counted : Counted s) (distinct : (s.gets.map Prod.fst).Nodup)
    (found : s.get? call = some get) (loan : Loan) : Counted (s.lend call loan) :=
  counted.ended rfl (length_others distinct found)

theorem fail (counted : Counted s) (distinct : (s.gets.map Prod.fst).Nodup)
    (found : s.get? call = some get) (cause : Error) : Counted (s.fail call cause) := by
  refine counted.ended ?_ (length_leave distinct found)
  obtain ⟨_, _, eq, _⟩ := leave_spec distinct found
  rw [State.fail, eq]

theorem examine (counted : Counted s) (distinct : (s.gets.map Prod.fst).Nodup)
    (found : s.get? call = some get) : Counted (s.examine call) := by
  rcases examine_cases s call with ⟨_, eq⟩ | ⟨entry, idle, pastLifetime, pastIdleTimeout, _, offered⟩
  · rw [eq]
    exact counted.setGet call .opening
  · rcases offered with ⟨new, _, _, eq⟩ | eq
    · rw [eq]
      have popped : Counted { s with idle, pastLifetime, pastIdleTimeout } := counted.same rfl rfl
      exact popped.setGet call new
    · rw [eq]
      have popped : Counted { s with idle } := counted.same rfl rfl
      exact popped.lend distinct found _

theorem startGet (counted : Counted s) (distinct : (s.gets.map Prod.fst).Nodup)
    (new : s.get? call = none) : Counted (s.startGet call) := by
  rcases startGet_cases distinct new with ⟨_, _, eq⟩ |
    ⟨_, free, get, gets, _, _, exchange, distinct', found, _, started⟩
  · rw [eq]
    exact counted.same rfl rfl
  · have arrived : Counted { s with waiting := s.waiting + 1, free, gets } := by
      obtain ⟨rest, before, after⟩ := exchange
      have fewer := before.length_eq
      have more := after.length_eq
      simp only [Option.map_none, Option.map_some, Option.toList_none, Option.toList_some,
        List.nil_append, List.length_append, List.length_singleton] at fewer more
      unfold Counted at counted ⊢
      dsimp only
      omega
    rcases started with eq | ⟨_, eq⟩
    · rw [eq]
      exact arrived
    · rw [eq]
      exact arrived.examine distinct' found

theorem giveBack (counted : Counted s) (loans : List Loan) (active : Nat) (loan : Loan)
    (outside : Bool) : Counted ({ s with loans, active }.takeBack loan outside).release := by
  have released (t : State) (waiting : t.waiting = s.waiting) (gets : t.gets = s.gets) :
      Counted t.release := by
    obtain ⟨_, _, eq, _⟩ := release_spec t
    have kept := length_release t
    rw [gets] at kept
    unfold Counted at counted ⊢
    rw [kept, ← counted, ← waiting, eq]
  rcases takeBack_cases { s with loans, active } loan outside with ⟨_, eq⟩ | ⟨_, _, eq⟩ | ⟨_, eq⟩
  · rw [eq]
    exact released _ rfl rfl
  · obtain ⟨_, _, eq'⟩ := retire_eq _ loan.connection outside
    rw [eq, eq']
    exact released _ rfl rfl
  · rw [eq]
    exact released _ rfl rfl

theorem noteClosed (counted : Counted s) (connection : Nat) (closed : Bool) :
    Counted (s.noteClosed connection closed) := by
  rw [noteClosed_eq]
  exact counted.same rfl rfl

theorem finishNext (counted : Counted s) (call : Nat) (rest : List Retiring) :
    Counted (s.finishNext call rest) := by
  obtain ⟨_, eq⟩ := finishNext_eq s call rest
  rw [eq]
  exact counted.same rfl rfl

theorem drainNext (counted : Counted s) (call : Nat) (wholePool : Bool) (rest : List Nat) :
    Counted (s.drainNext call wholePool rest) := by
  obtain ⟨_, _, eq⟩ := drainNext_eq s call wholePool rest
  rw [eq]
  exact counted.same rfl rfl

theorem warm (counted : Counted s) (call : Nat) : Counted (s.warm call) := by
  obtain ⟨_, eq⟩ := warm_eq s call
  rw [eq]
  exact counted.same rfl rfl

/-- Every call that ends takes itself off the count, unless it goes away without a word. -/
theorem step (counted : Counted s) (distinct : (s.gets.map Prod.fst).Nodup) {event : Event}
    (stays : event.cancels = false) : Counted (s.step event) := by
  have effect := step_effect s event
  generalize s.step event = t at effect ⊢
  cases effect with
  | nothing => exact counted
  | tick => exact counted.same rfl rfl
  | lose => exact counted.noteClosed _ true
  | get new => exact counted.startGet distinct new
  | turnedAway found => exact counted.fail distinct found _
  | turn found => exact counted.examine distinct found
  | usable found => exact counted.lend distinct found _
  | unusable => exact counted.setGet _ _
  | @discarded call connection closed found =>
    rw [← noteClosed_get? s call connection closed] at found
    refine (counted.noteClosed connection closed).examine ?_ found
    rw [noteClosed_eq]
    exact distinct
  | @opened call connection found =>
    have noted : Counted (s.noteOpened connection) := counted.same rfl rfl
    exact noted.lend distinct found _
  | refused _ found => exact counted.fail distinct found _
  | expired found => exact counted.fail distinct found _
  | cancelled => contradiction
  | givenBack => exact counted.giveBack _ _ _ _
  | retired =>
    refine Counted.noteClosed ?_ _ _
    exact counted.same rfl rfl
  | warmUp => exact counted.warm _
  | warmed =>
    refine Counted.warm ?_ _
    exact counted.same rfl rfl
  | warmFailed => exact counted.same rfl rfl
  | closeIdle =>
    refine Counted.drainNext ?_ _ _ _
    exact counted.same rfl rfl
  | close =>
    refine Counted.drainNext ?_ _ _ _
    exact counted.same rfl rfl
  | drained => exact (counted.noteClosed _ _).drainNext _ _ _
  | finished => exact (counted.noteClosed _ _).finishNext _ _
  | joined => exact counted.finishNext _ _

end Counted

/-! ### Runs -/

/-- Nothing has leaked from a pool: its counts are right and its slots are where they belong. -/
structure Sealed (config : Config) (s : State) : Prop where
  /-- The count of borrowed connections is right, and no connection is borrowed twice. -/
  active : s.stats.active = s.loans.length
  loans : (s.loans.map Loan.connection).Nodup
  /-- The count of those that wait is right, and no call is in progress twice. -/
  waiting : s.stats.waiting = s.gets.length
  calls : (s.gets.map Prod.fst).Nodup
  /-- The slots in use are one for each borrowed connection and one for each borrower that has been
  given one. -/
  slots : s.free + (s.loans.length + slotted s.gets) = config.maxSize
  /-- Who gives a connection back finds a count that can be lowered, and so does who waits. -/
  active_pos : ∀ loan ∈ s.loans, 0 < s.active
  waiting_pos : ∀ call, s.get? call ≠ none → 0 < s.waiting
  /-- Where nobody waits and nothing is borrowed every slot is free. -/
  free : s.gets = [] → s.loans = [] → s.free = config.maxSize

/-- What holds of a pool that opens connections for borrowers only, none of which goes away without a
word. -/
structure Attended (s : State) : Prop where
  balance : Balance s
  quiet : s.warmUps = []
  counted : Counted s

namespace Attended

variable {s : State}

theorem step (attended : Attended s) {event : Event} (untold : event.warms = false)
    (stays : event.cancels = false) : Attended (s.step event) := by
  obtain ⟨balance, quiet, counted⟩ := attended
  refine ⟨balance.step ?_, ?_, counted.step balance.distinct stays⟩
  · cases event with
    | warmed =>
      intro warming
      rw [quiet] at warming
      contradiction
    | _ => trivial
  · exact List.subset_nil.mp (quiet ▸ (step_continues s untold).warmUps)

theorem isSealed (attended : Attended s) (custody : Custody s) : Sealed s.config s := by
  obtain ⟨balance, -, counted⟩ := attended
  have slots := balance.slots
  refine ⟨balance.active, ?_, counted, balance.distinct, ?_, ?_, ?_, ?_⟩
  · have once := custody.once
    simp only [State.held, List.append_assoc] at once
    exact once.of_append_right.of_append_left
  · omega
  · intro loan lent
    rw [balance.active]
    exact List.length_pos_of_mem lent
  · intro call waits
    obtain ⟨get, found⟩ := Option.ne_none_iff_exists'.mp waits
    have others := length_others balance.distinct found
    unfold Counted at counted
    omega
  · intro nobody nothing
    rw [nobody, nothing] at slots
    exact slots

end Attended

/-- However the calls interleave and wherever a borrower's call ends, nothing leaks: the counts are
those of the calls in progress and of the borrowed connections, and every slot is theirs or free. -/
theorem nothing_leaks (config : Config) (ownCheck : Bool) {events : List Event}
    (untold : ∀ event ∈ events, event.warms = false)
    (stays : ∀ event ∈ events, event.cancels = false) :
    Sealed config ((State.ofConfig config ownCheck).after events) := by
  have attended : Attended ((State.ofConfig config ownCheck).after events) := by
    refine @after_keeps_each (fun event => event.warms = false ∧ event.cancels = false)
      Attended ?_ _ ⟨.ofConfig config ownCheck, rfl, rfl⟩ _ ?_
    · rintro s event ⟨untold, stays⟩ attended
      exact attended.step untold stays
    · intro event member
      exact ⟨untold event member, stays event member⟩
  have whole := attended.isSealed (Custody.after config ownCheck events)
  rwa [after_config] at whole

/-- One borrower gets a connection that is overdue when the next one comes, which has no patience left
while it is closed; another one waits for its slot and is then refused by the server; the pool is
closed while a third one opens a connection and a fourth one waits in the queue. -/
theorem nothing_leaks_two :
    let config : Config := { maxSize := 2, maxIdle := 2, idleTimeout := 5 }
    let events : List Event := [.get 0, .opened 0 7, .giveBack 7 false, .tick 6, .get 1, .get 2,
      .get 3, .expire 1, .resume 3, .refused 2 poolClosed, .get 4, .get 5, .close 9, .resume 5]
    let s := (State.ofConfig config false).after events
    (∀ event ∈ events, event.warms = false) ∧ (∀ event ∈ events, event.cancels = false) ∧
      s.gets = [(3, .opening), (4, .opening)] ∧ Sealed config s :=
  have untold : ∀ event ∈ ([.get 0, .opened 0 7, .giveBack 7 false, .tick 6, .get 1, .get 2,
      .get 3, .expire 1, .resume 3, .refused 2 poolClosed, .get 4, .get 5, .close 9, .resume 5] :
        List Event), event.warms = false := by decide
  have stays : ∀ event ∈ ([.get 0, .opened 0 7, .giveBack 7 false, .tick 6, .get 1, .get 2,
      .get 3, .expire 1, .resume 3, .refused 2 poolClosed, .get 4, .get 5, .close 9, .resume 5] :
        List Event), event.cancels = false := by decide
  ⟨untold, stays, by decide,
    nothing_leaks { maxSize := 2, maxIdle := 2, idleTimeout := 5 } false untold stays⟩

end SqlProbe.Pool
