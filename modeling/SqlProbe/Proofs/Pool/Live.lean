import SqlProbe.Proofs.Pool.Limits
import SqlProbe.Proofs.Pool.Holdings

/-!
# How many connections are open at the server

A slot stands for a connection that is idle, borrowed or examined. A connection that came back and
is not kept gives its slot up before it is closed, and so does one that a call takes away to close
it. Until the closing is done it is open at the server beside the connections with slots. These
strays are all that can bring the number of open connections above the limit: it is exceeded by no
more than there are strays when a connection is opened.
-/

namespace SqlProbe.Pool

namespace State

/-- The connections that are open at the server. -/
def live (s : State) : List Nat := s.opened.filter fun connection => !s.isClosed connection

/-- The connections that are idle or in the hands of a borrower. -/
def kept (s : State) : List Nat :=
  s.idle.map Idle.connection ++ s.loans.map Loan.connection ++ examined s.gets

/-- The open connections that have no slot any more: they are being closed, wait for it, or have
been lost. -/
def strays (s : State) : List Nat := s.live.filter fun connection => !s.kept.contains connection

end State

/-- No more than so many strays are about when a connection is opened. -/
def StraysAtMost (most : Nat) (s : State) : Event → Prop
  | .opened _ _ => s.strays.length ≤ most
  | _ => True

instance (most : Nat) (s : State) : (event : Event) → Decidable (StraysAtMost most s event)
  | .opened _ _ => inferInstanceAs (Decidable (s.strays.length ≤ most))
  | .tick _ | .lose _ | .get _ | .resume _ | .validated _ _ | .discarded _ _ | .refused _ _
  | .expire _ | .cancel _ | .giveBack _ _ | .retired _ _ | .warmUp _ | .warmed _ _ | .warmFailed _
  | .closeIdle _ | .close _ | .drained _ _ | .joined _ => .isTrue trivial

/-! ### Slots and connections -/

section Slots

variable {s : State} {call : Nat}

theorem length_examined_le (gets : List (Nat × Get)) : (examined gets).length ≤ engaged gets := by
  induction gets with
  | nil => exact Nat.le_refl _
  | cons entry gets ih =>
    obtain ⟨call, get⟩ := entry
    rw [engaged_cons, examined, List.flatMap_cons, List.length_append]
    change _ + (examined gets).length ≤ _
    cases get <;> simp only [Get.connection?, Get.isEngaged, Option.toList, List.length_nil,
      List.length_singleton, Bool.toNat_false, Bool.toNat_true] <;> omega

/-- A borrower that waits for a new connection has a slot for it. -/
theorem length_examined_lt (distinct : (s.gets.map Prod.fst).Nodup)
    (found : s.get? call = some .opening) : (examined s.gets).length < engaged s.gets := by
  have exchange := exchange_others distinct found
  have taken := exchange.examined_perm.length_eq
  have busy := exchange.engaged_eq
  have others := length_examined_le (others call s.gets)
  simp only [Option.bind_some, Option.bind_none, Get.connection?, Option.toList_none,
    List.nil_append] at taken
  simp only [Option.any_some, Option.any_none, Get.isEngaged, Bool.toNat_true, Bool.toNat_false,
    Nat.add_zero] at busy
  omega

theorem length_kept (s : State) :
    s.kept.length = s.idle.length + s.loans.length + (examined s.gets).length := by
  simp only [State.kept, List.length_append, List.length_map]

/-- Open connections are kept or strays. -/
theorem length_live_le (once : s.opened.Nodup) :
    s.live.length ≤ s.kept.length + s.strays.length := by
  have parts : (s.live.filter s.kept.contains).length + s.strays.length = s.live.length := by
    rw [State.strays, ← List.length_append]
    exact (List.filter_append_perm _ _).length_eq
  have among : s.live.filter s.kept.contains ⊆ s.kept := by
    intro connection member
    exact List.contains_iff_mem.mp (List.mem_filter.mp member).2
  have live : s.live.Nodup := once.filter _
  have fewer := (List.subperm_of_subset (live.filter _) among).length_le
  omega

end Slots

/-! ### Runs -/

/-- A pool that opens connections for borrowers only, with the limit on those that are open. -/
structure Contained (most : Nat) (s : State) : Prop where
  custody : Custody s
  balance : Balance s
  quiet : s.warmUps = []
  once : s.opened.Nodup
  live : s.live.length ≤ s.config.maxSize + most

namespace Contained

variable {most : Nat} {s : State}

theorem ofConfig (config : Config) (ownCheck : Bool) :
    Contained most (State.ofConfig config ownCheck) where
  custody := .ofConfig config ownCheck
  balance := .ofConfig config ownCheck
  quiet := rfl
  once := List.nodup_nil
  live := Nat.zero_le _

/-- When a connection is opened for a borrower, the connections that are kept leave room for it. -/
theorem live_lt (contained : Contained most s) {call : Nat} (found : s.get? call = some .opening)
    (strays : s.strays.length ≤ most) : s.live.length < s.config.maxSize + most := by
  have parts := length_live_le contained.once
  have slot := length_examined_lt contained.custody.distinct.gets found
  have total := contained.balance.total
  rw [length_kept] at parts
  omega

/-- Closed connections stay closed, and so the open ones are no others than before and new ones. -/
theorem length_live_step {t : State} {added : Option Nat} (opened : t.opened = added.toList ++ s.opened)
    (closed : s.closed ⊆ t.closed) : t.live.length ≤ added.toList.length + s.live.length := by
  have fewer : (s.opened.filter fun connection => !t.isClosed connection).length ≤ s.live.length := by
    refine (List.monotone_filter_right s.opened ?_).length_le
    intro connection unclosed
    simp only [State.isClosed, Bool.not_eq_true', List.contains_eq_mem,
      decide_eq_false_iff_not] at unclosed ⊢
    exact fun member => unclosed (closed member)
  rw [State.live, opened, List.filter_append, List.length_append]
  exact Nat.add_le_add (List.length_filter_le _ _) fewer

theorem step (contained : Contained most s) {event : Event} (untold : event.warms = false)
    (allowed : StraysAtMost most s event) : Contained most (s.step event) := by
  obtain ⟨added, removed, account⟩ := step_account contained.custody.distinct event
  have continues := step_continues s untold
  have grown := length_live_step account.opened continues.closed
  have quiet := contained.quiet
  have before := contained.live
  refine ⟨contained.custody.step event, contained.balance.step ?_,
    List.subset_nil.mp (quiet ▸ continues.warmUps), ?_, ?_⟩
  · cases event with
    | warmed =>
      intro warming
      rw [quiet] at warming
      contradiction
    | _ => trivial
  · rw [account.opened]
    cases added with
    | none => exact contained.once
    | some connection => exact List.nodup_cons.mpr ⟨account.fresh connection rfl, contained.once⟩
  · rw [continues.config]
    cases added with
    | none =>
      rw [Option.toList_none, List.length_nil] at grown
      omega
    | some connection =>
      rw [Option.toList_some, List.length_singleton] at grown
      cases account.brought connection rfl with
      | borrower found =>
        -- The borrower's own slot is none of those that the kept connections have.
        have room := contained.live_lt found allowed
        omega
      | warmUp warming =>
        rw [quiet] at warming
        contradiction

end Contained

/-- While connections are opened for borrowers only, those open at the server are never more than
the limit and the most strays that there were when one was opened. So the limit holds where every
connection that gave up its slot is closed before the next one is opened. -/
theorem length_live_le_of_strays (config : Config) (ownCheck : Bool) {most : Nat}
    {events : List Event} (untold : ∀ event ∈ events, event.warms = false)
    (allowed : Respects (StraysAtMost most) (State.ofConfig config ownCheck) events) :
    ((State.ofConfig config ownCheck).after events).live.length ≤ config.maxSize + most := by
  have contained := after_invariant
    (fun s event allowed contained => Contained.step (s := s) contained allowed.1 allowed.2)
    (allowed.and untold) (Contained.ofConfig config ownCheck)
  have live := contained.live
  rwa [after_config] at live

/-- The only connection allowed comes back and is closed, and then another one is opened. -/
theorem length_live_le_of_strays_closed :
    let config : Config := { maxSize := 1, maxIdle := 0 }
    let events : List Event := [.get 0, .opened 0 1, .giveBack 1 false, .get 1, .retired 1 true,
      .opened 1 2]
    (∀ event ∈ events, event.warms = false) ∧
      Respects (StraysAtMost 0) (State.ofConfig config false) events ∧
      ((State.ofConfig config false).after events).live.length ≤ config.maxSize + 0 :=
  have untold : ∀ event ∈ ([.get 0, .opened 0 1, .giveBack 1 false, .get 1, .retired 1 true,
      .opened 1 2] : List Event), event.warms = false := by decide
  have allowed : Respects (StraysAtMost 0) (State.ofConfig { maxSize := 1, maxIdle := 0 } false)
      [.get 0, .opened 0 1, .giveBack 1 false, .get 1, .retired 1 true, .opened 1 2] := by decide
  ⟨untold, allowed, length_live_le_of_strays _ false untold allowed⟩

/-- The only connection allowed comes back, and another one is opened before that is closed. -/
theorem limit_exceeded_at_server : ¬ ∀ (config : Config) (ownCheck : Bool) (events : List Event),
    (∀ event ∈ events, event.warms = false) → (∀ event ∈ events, event.closes = true) →
    ((State.ofConfig config ownCheck).after events).live.length ≤ config.maxSize := by
  intro bounded
  have most := bounded { maxSize := 1, maxIdle := 0 } false
    [.get 0, .opened 0 1, .giveBack 1 false, .get 1, .opened 1 2] (by decide) (by decide)
  revert most
  decide

/-! ### No limit on strays -/

/-- A borrower takes a new connection and gives it back. -/
def visit (n : Nat) : List Event := [.get n, .opened n n, .giveBack n false]

/-- A pool with one slot, which keeps nothing that comes back, after so many visits and with nothing
closed yet. -/
structure Visited (n : Nat) (s : State) : Prop where
  config : s.config = { maxSize := 1, maxIdle := 0, maxLifetime := none }
  idle : s.idle = []
  free : s.free = 1
  loans : s.loans = []
  shut : s.shut = false
  gets : s.gets = []
  opened : s.opened = (List.range n).reverse
  closed : s.closed = []

theorem Visited.visit {n : Nat} {s : State} (visited : Visited n s) :
    Visited (n + 1) (s.after (visit n)) := by
  obtain ⟨config, idle, free, loans, shut, gets, opened, closed⟩ := visited
  have fresh : n ∉ s.opened := by simp [opened]
  have came : s.step (.get n) =
      { s with waiting := s.waiting + 1, free := 0, gets := [(n, .opening)] } := by
    simp [State.step, State.get?, State.startGet, State.examine, State.setGet, gets, shut, free,
      idle]
  have lent : (s.step (.get n)).step (.opened n n) =
      { s with
        free := 0
        loans := [⟨n, s.now⟩]
        active := s.active + 1
        created := s.created + 1
        opened := n :: s.opened
        results := (n, .ok n) :: s.results } := by
    rw [came]
    simp [State.step, State.get?, State.noteOpened, State.lend, fresh, loans, gets]
  have back : ((s.step (.get n)).step (.opened n n)).step (.giveBack n false) =
      { s with
        closings := s.closings ++ [n]
        created := s.created + 1
        overIdleCap := s.overIdleCap + 1
        retiring := s.retiring.filter (Retiring.isUnfinished s.closings) ++ [.closing n]
        opened := n :: s.opened
        results := (n, .ok n) :: s.results } := by
    rw [lent]
    simp [State.step, State.giveBack, State.takeBack, State.isClosed, State.outlived, State.retire,
      State.release, grantFirst, closed, shut, config, idle, gets, free, loans]
  change Visited (n + 1) (((s.step (.get n)).step (.opened n n)).step (.giveBack n false))
  rw [back]
  refine ⟨config, idle, free, loans, shut, gets, ?_, closed⟩
  rw [List.range_succ, List.reverse_append, ← opened]
  rfl

theorem visited (n : Nat) : Visited n ((State.ofConfig
    { maxSize := 1, maxIdle := 0, maxLifetime := none } false).after
      ((List.range n).flatMap visit)) := by
  induction n with
  | zero => exact ⟨rfl, rfl, rfl, rfl, rfl, rfl, rfl, rfl⟩
  | succ n ih =>
    rw [List.range_succ, List.flatMap_append, List.flatMap_singleton, State.after,
      List.foldl_append]
    exact ih.visit

/-- Where closing takes long enough, a pool with one slot has any number of connections open. -/
theorem exists_length_live_eq (n : Nat) : ∃ events : List Event,
    (∀ event ∈ events, event.warms = false ∧ event.closes = true) ∧ ((State.ofConfig
      { maxSize := 1, maxIdle := 0, maxLifetime := none } false).after events).live.length = n := by
  refine ⟨(List.range n).flatMap visit, ?_, ?_⟩
  · intro event member
    obtain ⟨m, -, among⟩ := List.mem_flatMap.mp member
    simp only [visit, List.mem_cons, List.not_mem_nil, or_false] at among
    rcases among with rfl | rfl | rfl <;> exact ⟨rfl, rfl⟩
  · have visited := visited n
    simp [State.live, State.isClosed, visited.opened, visited.closed]

end SqlProbe.Pool
