import SqlProbe.Proofs.Pool.Exits
import SqlProbe.Proofs.Pool.Limits
import SqlProbe.Proofs.Pool.Losses
import SqlProbe.Proofs.Pool.Reopening

/-!
# Pools that lend

A pool that is not being closed lends connections and takes them back. As long as all idle
connections may be lent when a borrower has its turn, no borrower ever has a connection in hand
without having borrowed it, and so none is lost, whoever gives up, unless it cannot be closed. Time
alone makes idle connections too old to be lent. When nobody has a turn and time can pass, either
none is idle, or nobody waits in the queue whose turn could come later.
-/

namespace SqlProbe.Pool

/-! ### Turns -/

/-- The borrowers are the same, except that some of those in the queue have their turn. -/
structure Grants (gets gets' : List (Nat × Get)) : Prop where
  calls : gets'.map Prod.fst = gets.map Prod.fst
  lookup : ∀ call, gets'.lookup call = gets.lookup call ∨
    gets.lookup call = some .queued ∧ gets'.lookup call = some .granted

theorem grants_grantFirst {gets gets' : List (Nat × Get)} (granted : grantFirst gets = some gets') :
    Grants gets gets' := by
  induction gets generalizing gets' with
  | nil => contradiction
  | cons entry rest ih =>
    have skip {entry : Nat × Get} (skipped : (grantFirst rest).map (entry :: ·) = some gets') :
        Grants (entry :: rest) gets' := by
      obtain ⟨rest', later, rfl⟩ := Option.map_eq_some_iff.mp skipped
      obtain ⟨calls, lookup⟩ := ih later
      refine ⟨congrArg (entry.1 :: ·) calls, ?_⟩
      intro call
      rw [List.lookup_cons, List.lookup_cons]
      cases call == entry.1 with
      | true => exact .inl rfl
      | false => exact lookup call
    obtain ⟨first, get⟩ := entry
    cases get with
    | queued =>
      obtain rfl := Option.some.inj granted
      refine ⟨rfl, ?_⟩
      intro call
      rw [List.lookup_cons, List.lookup_cons]
      cases call == first with
      | true => exact .inr ⟨rfl, rfl⟩
      | false => exact .inl rfl
    | granted => exact skip granted
    | validating => exact skip granted
    | discarding => exact skip granted
    | opening => exact skip granted

/-- Where no slot goes to anybody, nobody waits for one. -/
theorem ne_queued_of_grantFirst {gets : List (Nat × Get)} (nobody : grantFirst gets = none) :
    ∀ entry ∈ gets, entry.2 ≠ .queued := by
  induction gets with
  | nil => exact fun _ member => nomatch member
  | cons entry rest ih =>
    have skip {first : Nat × Get} (waits : first.2 ≠ .queued)
        (skipped : (grantFirst rest).map (first :: ·) = none) :
        ∀ entry ∈ first :: rest, entry.2 ≠ .queued := by
      intro entry member
      rcases List.mem_cons.mp member with rfl | later
      · exact waits
      · exact ih (Option.map_eq_none_iff.mp skipped) entry later
    obtain ⟨call, get⟩ := entry
    cases get with
    | queued => contradiction
    | granted => exact skip nofun nobody
    | validating => exact skip nofun nobody
    | discarding => exact skip nofun nobody
    | opening => exact skip nofun nobody

theorem grants_release (s : State) : Grants s.gets s.release.gets := by
  unfold State.release
  split
  · next gets granted =>
    split at granted
    · contradiction
    · exact grants_grantFirst granted
  · exact ⟨rfl, fun _ => .inl rfl⟩

/-! ### Borrowers without a connection -/

/-- A borrower that is neither served nor let down has no connection in hand, and it waits in the
queue only while no slot is free. -/
structure Unserved (s : State) (entry : Nat × Get) : Prop where
  bare : entry.2.connection? = none
  outcome : s.result? entry.1 = none
  full : entry.2 = .queued → s.free = 0

/-- A borrower has come, and so many slots are free then. -/
def State.welcome (s : State) (call free : Nat) (get : Get) : State :=
  { s with waiting := s.waiting + 1, free, gets := s.gets ++ [(call, get)] }

/-- A new borrower waits in the queue if no slot is free, and has its turn at once otherwise. -/
theorem startGet_eq {s : State} {call : Nat} (running : s.shut = false) (new : s.get? call = none) :
    s.free = 0 ∧ s.startGet call = s.welcome call 0 .queued ∨
      s.free ≠ 0 ∧ s.startGet call = (s.welcome call (s.free - 1) .granted).examine call := by
  have put : (s.gets ++ [(call, Get.queued)]).map
      (fun entry => if entry.1 = call then (call, Get.granted) else entry) =
        s.gets ++ [(call, .granted)] := by
    rw [List.map_append,
      List.map_congr_left (fun entry member => if_neg (absent_of_lookup new entry member))]
    simp
  unfold State.startGet
  rw [if_neg (Bool.eq_false_iff.mp running)]
  dsimp only
  split
  · next full => exact .inl ⟨full, by rw [State.welcome, ← full]⟩
  · next room =>
    refine .inr ⟨room, ?_⟩
    simp only [State.setGet, put, State.welcome]

/-- All borrowers are unserved. -/
def Waiting (s : State) : Prop := ∀ entry ∈ s.gets, Unserved s entry

namespace Waiting

variable {s t : State} {call : Nat} {get : Get}

theorem of_get? (waiting : Waiting s) (found : s.get? call = some get) : Unserved s (call, get) :=
  waiting _ (mem_of_lookup found)

theorem same (waiting : Waiting s) (gets : t.gets = s.gets) (results : t.results = s.results)
    (free : t.free = s.free) : Waiting t := by
  intro entry member
  rw [gets] at member
  obtain ⟨bare, outcome, full⟩ := waiting entry member
  refine ⟨bare, ?_, ?_⟩
  · rw [State.result?, results]
    exact outcome
  · rw [free]
    exact full

theorem setGet (waiting : Waiting s) (found : s.get? call = some get) {new : Get}
    (bare : new.connection? = none) (turn : new ≠ .queued) : Waiting (s.setGet call new) := by
  intro entry member
  obtain ⟨before, among, rfl⟩ := List.mem_map.mp member
  split
  · exact ⟨bare, (waiting.of_get? found).outcome, fun queued => absurd queued turn⟩
  · exact ⟨(waiting before among).bare, (waiting before among).outcome, (waiting before among).full⟩

theorem without (waiting : Waiting s) (call : Nat) :
    Waiting { s with gets := others call s.gets } := by
  intro entry member
  have same := waiting entry (List.mem_of_mem_filter member)
  exact ⟨same.bare, same.outcome, same.full⟩

/-- An outcome is that of a borrower that waits no more. -/
theorem note (waiting : Waiting s) (ended : ∀ entry ∈ s.gets, entry.1 ≠ call)
    (outcome : Except Error Nat) (gets : t.gets = s.gets)
    (results : t.results = (call, outcome) :: s.results) (free : t.free = s.free) : Waiting t := by
  intro entry member
  rw [gets] at member
  obtain ⟨bare, none, full⟩ := waiting entry member
  refine ⟨bare, ?_, ?_⟩
  · rw [State.result?, results, List.lookup_cons, beq_false_of_ne (ended entry member)]
    exact none
  · rw [free]
    exact full

theorem lend (waiting : Waiting s) (call : Nat) (loan : Loan) : Waiting (s.lend call loan) :=
  note (waiting.without call) (fun _ member => of_decide_eq_true (List.mem_filter.mp member).2)
    (.ok loan.connection) rfl rfl rfl

theorem release (waiting : Waiting s) (running : s.shut = false) : Waiting s.release := by
  unfold State.release
  rw [running, if_neg Bool.false_ne_true]
  split
  · next gets granted =>
    obtain ⟨call, rest, before, after⟩ := exchange_grantFirst granted
    intro entry member
    rcases List.mem_cons.mp (after.subset member) with rfl | other
    · have first := waiting _ (before.symm.subset List.mem_cons_self)
      exact ⟨rfl, first.outcome, nofun⟩
    · have same := waiting entry (before.symm.subset (List.mem_cons_of_mem _ other))
      exact ⟨same.bare, same.outcome, same.full⟩
  · next nobody =>
    intro entry member
    have same := waiting entry member
    exact ⟨same.bare, same.outcome, fun queued =>
      absurd queued (ne_queued_of_grantFirst nobody entry member)⟩

theorem fail (waiting : Waiting s) (running : s.shut = false) (call : Nat) (cause : Error) :
    Waiting (s.fail call cause) := by
  have ended : ∀ entry ∈ others call s.gets, entry.1 ≠ call :=
    fun _ member => of_decide_eq_true (List.mem_filter.mp member).2
  have left : Waiting (s.leave call) ∧ ∀ entry ∈ (s.leave call).gets, entry.1 ≠ call := by
    rcases leave_cases s call with eq | eq
    · rw [eq]
      exact ⟨waiting.without call, ended⟩
    · rw [eq]
      refine ⟨(waiting.without call).release running, ?_⟩
      intro entry member same
      have among : entry.1 ∈ (others call s.gets).map Prod.fst := by
        rw [← (grants_release { s with gets := others call s.gets }).calls]
        exact List.mem_map_of_mem member
      obtain ⟨other, among, eq⟩ := List.mem_map.mp among
      exact ended other among (eq.trans same)
  exact left.1.note left.2 (.error cause) rfl rfl rfl

theorem welcome (waiting : Waiting s) (outcome : s.result? call = none) {free : Nat}
    (bare : get.connection? = none) (full : get = .queued → free = 0) (kept : s.free = 0 → free = 0) :
    Waiting (s.welcome call free get) := by
  intro entry member
  rcases List.mem_append.mp member with before | last
  · have same := waiting entry before
    exact ⟨same.bare, same.outcome, fun queued => kept (same.full queued)⟩
  · rw [List.mem_singleton.mp last]
    exact ⟨bare, outcome, full⟩

end Waiting

/-! ### Steps of borrowers -/

/-- What no step of a borrower changes, in a pool that opens no connection; the idle connections may
become fewer. -/
structure Serves (s t : State) : Prop extends Undisturbed s t where
  now : t.now = s.now
  shut : t.shut = s.shut
  ownCheck : t.ownCheck = s.ownCheck
  idle : t.idle ⊆ s.idle

namespace Serves

variable {s t u : State} {call : Nat} {get : Get}

theorem trans (first : Serves s t) (second : Serves t u) : Serves s u where
  toUndisturbed := first.toUndisturbed.trans second.toUndisturbed
  now := second.now.trans first.now
  shut := second.shut.trans first.shut
  ownCheck := second.ownCheck.trans first.ownCheck
  idle := List.Subset.trans second.idle first.idle

theorem release (s : State) : Serves s s.release := by
  obtain ⟨_, _, eq, _⟩ := release_spec s
  rw [eq]
  exact ⟨⟨⟨rfl, rfl, rfl, rfl, rfl⟩, rfl, rfl⟩, rfl, rfl, rfl, List.Subset.refl _⟩

theorem fail (distinct : (s.gets.map Prod.fst).Nodup) (found : s.get? call = some get)
    (cause : Error) : Serves s (s.fail call cause) := by
  obtain ⟨_, _, eq, _⟩ := leave_spec distinct found
  rw [State.fail, eq]
  exact ⟨⟨⟨rfl, rfl, rfl, rfl, rfl⟩, rfl, rfl⟩, rfl, rfl, rfl, List.Subset.refl _⟩

theorem lend (s : State) (call : Nat) (loan : Loan) : Serves s (s.lend call loan) :=
  ⟨undisturbed_lend s call loan, rfl, rfl, rfl, List.Subset.refl _⟩

theorem examine (s : State) (call : Nat) : Serves s (s.examine call) := by
  rcases examine_cases s call with ⟨_, eq⟩ |
    ⟨entry, idle, _, _, first, ⟨_, _, _, eq⟩ | eq⟩
  · rw [eq]
    exact ⟨undisturbed_setGet s call _, rfl, rfl, rfl, List.Subset.refl _⟩
  · rw [eq]
    refine ⟨⟨⟨rfl, rfl, rfl, rfl, rfl⟩, rfl, rfl⟩, rfl, rfl, rfl, ?_⟩
    rw [first]
    exact List.subset_cons_self _ _
  · rw [eq]
    refine ⟨⟨⟨rfl, rfl, rfl, rfl, rfl⟩, rfl, rfl⟩, rfl, rfl, rfl, ?_⟩
    rw [first]
    exact List.subset_cons_self _ _

end Serves

/-! ### Connections that may be lent -/

/-- All idle connections may be lent. -/
def Offerable (s : State) : Prop := ∀ entry ∈ s.idle, s.offerExit? entry = none

/-- All borrowers that wait do so for a new connection. -/
def Served (s : State) : Prop := ∀ call get, s.get? call = some get → get = .opening

theorem offerExit?_eq_none {s : State} {entry : Idle} : s.offerExit? entry = none ↔
    s.outlived entry.createdAt = false ∧ s.overdue entry.idleSince = false ∧
      s.isClosed entry.connection = false := by
  unfold State.offerExit?
  split
  · next old => simp [old]
  · next young =>
    split
    · next late => simp [late]
    · next early =>
      split
      · next closed => simp [closed]
      · next opened =>
        simp only [Bool.not_eq_true] at young early opened
        simp [young, early, opened]

namespace Offerable

variable {s t : State} {call : Nat} {get : Get}

theorem serves (offerable : Offerable s) (serves : Serves s t) : Offerable t := by
  intro entry member
  have before := offerable entry (serves.idle member)
  rw [offerExit?_eq_none] at before ⊢
  rwa [State.outlived, State.overdue, State.isClosed, serves.now, serves.config, serves.closed]

/-- A borrower that has its turn gets the first idle connection, or waits for a new one. -/
theorem examine (offerable : Offerable s) (ownCheck : s.ownCheck = false) (call : Nat) :
    s.idle = [] ∧ s.examine call = s.setGet call .opening ∨ ∃ entry idle, s.idle = entry :: idle ∧
      s.examine call = { s with idle }.lend call ⟨entry.connection, entry.createdAt⟩ := by
  cases first : s.idle with
  | nil => exact .inl ⟨rfl, examine_of_idle_nil first⟩
  | cons entry idle =>
    have may := offerable entry (first ▸ List.mem_cons_self)
    obtain ⟨young, early, opened⟩ := offerExit?_eq_none.mp may
    refine .inr ⟨entry, idle, rfl, ?_⟩
    unfold State.examine
    rw [first]
    dsimp only
    rw [if_neg (by simpa [State.outlived] using young), if_neg (by simpa [State.overdue] using early),
      if_neg (by simp [ownCheck]), if_neg (by simpa [State.isClosed] using opened)]

end Offerable

/-! ### Pools that only lend -/

/-- A pool that is not being closed and has no check of its own: its borrowers have no connection in
hand, and the connections that are being closed are on their way out. -/
structure Running (s : State) : Prop where
  shut : s.shut = false
  closers : s.closers = []
  ownCheck : s.ownCheck = false
  waiting : Waiting s
  closing : ∀ connection ∈ s.closings, .closing connection ∈ s.retiring
  once : s.closings.Nodup

namespace Running

variable {s t : State} {call : Nat} {get : Get}

theorem serves (running : Running s) (serves : Serves s t) (waiting : Waiting t) : Running t where
  shut := serves.shut.trans running.shut
  closers := serves.closers.trans running.closers
  ownCheck := serves.ownCheck.trans running.ownCheck
  waiting := waiting
  closing := by
    rw [serves.closings, serves.retiring]
    exact running.closing
  once := serves.closings ▸ running.once

theorem release (running : Running s) : Running s.release :=
  running.serves (.release s) (running.waiting.release running.shut)

theorem fail (running : Running s) (distinct : (s.gets.map Prod.fst).Nodup)
    (found : s.get? call = some get) (cause : Error) : Running (s.fail call cause) :=
  running.serves (.fail distinct found cause) (running.waiting.fail running.shut _ cause)

theorem lend (running : Running s) (call : Nat) (loan : Loan) : Running (s.lend call loan) :=
  running.serves (.lend s call loan) (running.waiting.lend call loan)

theorem examine (running : Running s) (offerable : Offerable s) (found : s.get? call = some get) :
    Running (s.examine call) := by
  refine running.serves (.examine s call) ?_
  rcases offerable.examine running.ownCheck call with ⟨_, eq⟩ | ⟨entry, idle, _, eq⟩
  · rw [eq]
    exact running.waiting.setGet found rfl nofun
  · rw [eq]
    have popped : Waiting { s with idle } := running.waiting.same rfl rfl rfl
    exact popped.lend call _

theorem welcome (running : Running s) (outcome : s.result? call = none) {free : Nat}
    (bare : get.connection? = none) (full : get = .queued → free = 0) (kept : s.free = 0 → free = 0) :
    Running (s.welcome call free get) :=
  ⟨running.shut, running.closers, running.ownCheck, running.waiting.welcome outcome bare full kept,
    running.closing, running.once⟩

theorem startGet (running : Running s) (offerable : Offerable s) (new : s.get? call = none)
    (outcome : s.result? call = none) : Running (s.startGet call) := by
  rcases startGet_eq running.shut new with ⟨_, eq⟩ | ⟨_, eq⟩
  · rw [eq]
    exact running.welcome outcome rfl (fun _ => rfl) (fun _ => rfl)
  · have arrived : Running (s.welcome call (s.free - 1) .granted) :=
      running.welcome outcome rfl nofun (fun full => by rw [full])
    rw [eq]
    exact arrived.examine offerable (lookup_append new .granted)

/-- A connection that comes back is sent on its way out only if it was borrowed. -/
theorem giveBack (running : Running s) (custody : Custody s) {loan : Loan} (lent : loan ∈ s.loans)
    (active : Nat) : Running
      ({ s with loans := s.loans.erase loan, active }.takeBack loan false).release := by
  have kept (idle : List Idle) : Running { s with loans := s.loans.erase loan, active, idle } :=
    ⟨running.shut, running.closers, running.ownCheck, running.waiting.same rfl rfl rfl,
      running.closing, running.once⟩
  rcases takeBack_cases { s with loans := s.loans.erase loan, active } loan false with
    ⟨_, eq⟩ | ⟨pastLifetime, overIdleCap, eq⟩ | ⟨_, eq⟩
  · rw [eq]
    exact (kept s.idle).release
  · rw [eq]
    have unclosing : loan.connection ∉ s.closings := by
      intro member
      have once := custody.once
      simp only [State.held, List.append_assoc] at once
      have apart := (List.nodup_append.mp once.of_append_right).2.2
      refine apart _ (List.mem_map_of_mem lent) loan.connection ?_ rfl
      refine List.mem_append_right _ (List.mem_append_left _ ?_)
      exact List.mem_map_of_mem (running.closing _ member)
    refine release ⟨running.shut, running.closers, running.ownCheck,
      running.waiting.same rfl rfl rfl, ?_, ?_⟩
    · intro connection member
      rcases List.mem_append.mp member with before | last
      · refine List.mem_append_left _ (List.mem_filter.mpr ⟨running.closing connection before, ?_⟩)
        exact List.contains_iff_mem.mpr before
      · rw [List.mem_singleton.mp last]
        exact List.mem_append_right _ List.mem_cons_self
    · exact List.nodup_append.mpr ⟨running.once, List.nodup_singleton _, by
        rintro connection member _ last rfl
        exact unclosing (List.mem_singleton.mp last ▸ member)⟩
  · rw [eq]
    exact (kept _).release

theorem retired (running : Running s) (connection : Nat) (closed : Bool) :
    Running ({ s with closings := s.closings.erase connection }.noteClosed connection closed) := by
  rw [noteClosed_eq]
  refine ⟨running.shut, running.closers, running.ownCheck, running.waiting.same rfl rfl rfl, ?_,
    running.once.erase connection⟩
  intro other member
  exact running.closing other (List.mem_of_mem_erase member)

end Running

/-- A pool that lends connections, none of which is in two places. -/
structure Lending (s : State) : Prop extends Running s where
  custody : Custody s
  balance : Balance s

/-- What can happen to a pool that only lends. Turns come while all idle connections may be lent, and
what comes back does so where a task can be started to close it. -/
def Lends (s : State) : Event → Prop
  | .tick _ | .opened _ _ | .refused _ _ | .expire _ => True
  | .get call => Offerable s ∧ s.result? call = none
  | .resume _ => Offerable s
  | .giveBack _ outside => outside = false
  | .retired _ closed => closed = true
  | _ => False

namespace Lending

variable {s : State} {call : Nat}

theorem ofConfig (config : Config) : Lending (State.ofConfig config) where
  shut := rfl
  closers := rfl
  ownCheck := rfl
  waiting := fun _ member => nomatch member
  closing := fun _ member => nomatch member
  once := List.nodup_nil
  custody := .ofConfig config false
  balance := .ofConfig config false

/-- Nobody has a connection in hand to give up with. -/
theorem abandons_eq_nil (lending : Lending s) {event : Event} (lends : Lends s event) :
    s.abandons event = [] := by
  cases event with
  | expire call =>
    rw [State.abandons]
    cases found : s.get? call with
    | none => rfl
    | some get =>
      have bare := (lending.waiting.of_get? found).bare
      rw [Option.bind_some, bare, Option.toList_none]
  | cancel call => contradiction
  | _ => rfl

theorem running_step (lending : Lending s) {event : Event} (lends : Lends s event) :
    Running (s.step event) := by
  have running := lending.toRunning
  have distinct := lending.balance.distinct
  have effect := step_effect s event
  generalize s.step event = t at effect ⊢
  cases effect with
  | nothing => exact running
  | tick =>
    exact ⟨running.shut, running.closers, running.ownCheck, running.waiting.same rfl rfl rfl,
      running.closing, running.once⟩
  | lose => contradiction
  | get new => exact running.startGet lends.1 new lends.2
  | turnedAway found => exact running.fail distinct found _
  | turn found => exact running.examine lends found
  | usable => contradiction
  | unusable => contradiction
  | discarded => contradiction
  | @opened call connection =>
    have noted : Running (s.noteOpened connection) :=
      ⟨running.shut, running.closers, running.ownCheck, running.waiting.same rfl rfl rfl,
        running.closing, running.once⟩
    exact noted.lend call _
  | refused _ found => exact running.fail distinct found _
  | expired found => exact running.fail distinct found _
  | cancelled => contradiction
  | givenBack outside lent =>
    obtain rfl : outside = false := lends
    exact running.giveBack lending.custody lent _
  | retired closed => exact running.retired _ closed
  | warmUp => contradiction
  | warmed => contradiction
  | warmFailed => contradiction
  | closeIdle => contradiction
  | close => contradiction
  | drained => contradiction
  | finished => contradiction
  | joined => contradiction

theorem step (lending : Lending s) {event : Event} (lends : Lends s event) :
    Lending (s.step event) := by
  refine ⟨lending.running_step lends, lending.custody.step event, lending.balance.step ?_⟩
  cases event with
  | warmed => contradiction
  | _ => trivial

/-- The closing of a connection on its way out has ended. -/
theorem retired (lending : Lending s) {connection : Nat} (closing : connection ∈ s.closings)
    (closed : Bool) : Lending (s.step (.retired connection closed)) := by
  refine ⟨?_, lending.custody.step _, lending.balance.step trivial⟩
  rw [State.step, if_pos (List.contains_iff_mem.mpr closing)]
  exact lending.toRunning.retired connection closed

/-- No connection is lost. -/
theorem accounted (lending : Lending s) {event : Event} (lends : Lends s event)
    (accounted : Accounted s []) : Accounted (s.step event) [] := by
  have closes : event.closes = true := by
    cases event with
    | retired => exact lends
    | discarded => contradiction
    | drained => contradiction
    | _ => rfl
  have next := accounted.step event closes
  rwa [lending.abandons_eq_nil lends, List.append_nil] at next

/-- When nobody has a turn, no connection is idle or nobody can come to have one. -/
theorem idle_eq_nil_or_served (lending : Lending s) (turns : ∀ call, s.get? call ≠ some .granted) :
    s.idle = [] ∨ Served s := by
  by_cases queue : ∃ call, s.get? call = some .queued
  · obtain ⟨call, queued⟩ := queue
    have full := (lending.waiting.of_get? queued).full rfl
    have busy : slotted s.gets ≤ engaged s.gets := by
      refine List.countP_mono_left fun entry member slot => ?_
      have found := lookup_of_mem lending.balance.distinct member
      have bare := (lending.waiting entry member).bare
      cases waits : entry.2 with
      | queued => rw [waits] at slot; contradiction
      | granted => rw [waits] at found; exact absurd found (turns entry.1)
      | validating => rfl
      | discarding => rfl
      | opening => rfl
    have slots := lending.balance.slots
    have total := lending.balance.total
    exact .inl (List.length_eq_zero_iff.mp (by omega))
  · refine .inr fun call get found => ?_
    have bare := (lending.waiting.of_get? found).bare
    cases get with
    | queued => exact absurd ⟨call, found⟩ queue
    | granted => exact absurd found (turns call)
    | validating => contradiction
    | discarding => contradiction
    | opening => rfl

/-- A connection that is being closed has been opened. -/
theorem opened_of_closing (lending : Lending s) {connection : Nat}
    (closing : connection ∈ s.closings) : connection ∈ s.opened := by
  refine lending.custody.known connection ?_
  refine List.mem_append_left _ (List.mem_append_right _ ?_)
  exact List.mem_map_of_mem (lending.closing connection closing)

end Lending

end SqlProbe.Pool
