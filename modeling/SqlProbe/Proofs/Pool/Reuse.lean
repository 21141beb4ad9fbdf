import SqlProbe.Proofs.Pool.Timing

/-!
# What borrowers are given

A borrower that has its turn looks at the idle connections one after the other, from the front, and
waits for the end of each that it may not have; meanwhile time passes and others take connections and
bring them back. So nothing that held when it came need hold when it goes on. What it is given, or
passed over, is judged by the state of the moment and, since the notes of the pool are true, by how
old the connection really is and for how long it has been idle.
-/

namespace SqlProbe.Pool

/-- A connection with this history may be lent. -/
structure Usable (config : Config) (s : State) (connection openedAt idleFrom : Nat) : Prop where
  live : connection ∉ s.closed
  young : ∀ limit, config.maxLifetime = some limit → s.now - openedAt ≤ limit
  early : s.now - idleFrom ≤ config.idleTimeout

/-- Why a connection with this history is not lent when it stands in front, and what is counted. -/
inductive Rejected (config : Config) (s t : State) (connection openedAt idleFrom : Nat) : Prop
  | tooOld {limit : Nat} (bounded : config.maxLifetime = some limit) (old : limit < s.now - openedAt)
      (counts : t.closedCounts = (s.overIdleCap, s.pastLifetime + 1, s.pastIdleTimeout))
  | overdue (young : ∀ limit, config.maxLifetime = some limit → s.now - openedAt ≤ limit)
      (late : config.idleTimeout < s.now - idleFrom)
      (counts : t.closedCounts = (s.overIdleCap, s.pastLifetime, s.pastIdleTimeout + 1))
  | closed (young : ∀ limit, config.maxLifetime = some limit → s.now - openedAt ≤ limit)
      (early : s.now - idleFrom ≤ config.idleTimeout) (closed : connection ∈ s.closed)
      (counts : t.closedCounts = (s.overIdleCap, s.pastLifetime, s.pastIdleTimeout))

section Checks

variable {s t u : State} {time : Nat}

theorem outlived_eq_true_iff : s.outlived time = true ↔
    ∃ limit, s.config.maxLifetime = some limit ∧ limit < s.now - time := by
  unfold State.outlived
  split
  · next limit bounded => simp [bounded]
  · next unbounded => simp [unbounded]

theorem outlived_eq_false_iff : s.outlived time = false ↔
    ∀ limit, s.config.maxLifetime = some limit → s.now - time ≤ limit := by
  rw [← Bool.not_eq_true, outlived_eq_true_iff]
  simp only [not_exists, not_and, Nat.not_lt]

theorem overdue_eq_true_iff : s.overdue time = true ↔ s.config.idleTimeout < s.now - time :=
  decide_eq_true_iff

theorem overdue_eq_false_iff : s.overdue time = false ↔ s.now - time ≤ s.config.idleTimeout := by
  rw [State.overdue, decide_eq_false_iff_not, Nat.not_lt]

end Checks

/-! ### Steps -/

section Steps

variable {s t u : State} {event : Event} {call : Nat}

/-- What becomes of the connection that stands in front when a borrower has its turn: it is lent, or is
to be closed for one reason. -/
theorem Offer.fate (turn : Turn s u call) (offer : Offer u call t) {entry : Idle}
    (member : entry ∈ s.idle) (gone : entry ∉ t.idle) (plain : s.ownCheck = false) :
    t.results = (call, .ok entry.connection) :: s.results ∨
      t.get? call = some (.discarding entry.connection) ∧
        Rejected s.config s t entry.connection entry.createdAt entry.idleSince := by
  obtain ⟨get, found⟩ := turn.waits
  have front {first : Idle} {idle : List Idle} (eq : u.idle = first :: idle) (left : entry ∉ idle) :
      entry = first := by
    rw [← turn.idle, eq] at member
    exact (List.mem_cons.mp member).resolve_right left
  have counts := turn.counts
  simp only [State.closedCounts, Prod.mk.injEq] at counts
  obtain ⟨cap, lifetime, timeout⟩ := counts
  cases offer with
  | opening none =>
    rw [← turn.idle, none] at member
    contradiction
  | tooOld first old =>
    obtain rfl := front first gone
    obtain ⟨limit, bounded, old⟩ := outlived_eq_true_iff.mp ((turn.outlived _).symm.trans old)
    refine .inr ⟨lookup_replace_self found _, .tooOld bounded old ?_⟩
    rw [← cap, ← lifetime, ← timeout]
    rfl
  | overdue first young late =>
    obtain rfl := front first gone
    have young := outlived_eq_false_iff.mp ((turn.outlived _).symm.trans young)
    have late := overdue_eq_true_iff.mp ((turn.overdue _).symm.trans late)
    refine .inr ⟨lookup_replace_self found _, .overdue young late ?_⟩
    rw [← cap, ← lifetime, ← timeout]
    rfl
  | checked _ _ _ own =>
    rw [turn.ownCheck, plain] at own
    contradiction
  | foundClosed first young early _ closed =>
    obtain rfl := front first gone
    have young := outlived_eq_false_iff.mp ((turn.outlived _).symm.trans young)
    have early := overdue_eq_false_iff.mp ((turn.overdue _).symm.trans early)
    have closed := List.contains_iff_mem.mp ((turn.isClosed entry member).symm.trans closed)
    refine .inr ⟨lookup_replace_self found _, .closed young early closed ?_⟩
    rw [← cap, ← lifetime, ← timeout]
    rfl
  | lent first =>
    obtain rfl := front first gone
    rw [← turn.results]
    exact .inl rfl

/-- What becomes of a connection that ceases to be idle, where the idle ones are not all taken away. -/
theorem Course.leaves (course : Course s event t) {entry : Idle} (member : entry ∈ s.idle)
    (gone : entry ∉ t.idle) (plain : s.ownCheck = false) (keeps : event.clears = false) :
    ∃ call, t.results = (call, .ok entry.connection) :: s.results ∨
      t.get? call = some (.discarding entry.connection) ∧
        Rejected s.config s t entry.connection entry.createdAt entry.idleSince := by
  cases course with
  | calm calm =>
    have shift := calm.idle
    generalize t.idle = idle at shift gone
    cases shift with
    | stays => contradiction
    | kept => exact absurd (List.mem_append_left _ member) gone
    | warmed => exact absurd (List.mem_append_left _ member) gone
    | cleared clears =>
      rw [keeps] at clears
      contradiction
  | turn turn offer => exact ⟨_, offer.fate turn member gone plain⟩
  | passed _ eq =>
    subst eq
    contradiction
  | new _ eq =>
    subst eq
    contradiction

end Steps

/-! ### Runs -/

/-- A step of a pool gives borrowers what they may have, by the times at which connections were opened
and became idle. -/
structure Vetted (config : Config) (s : State) (event : Event) (openedAt idleFrom : Nat → Option Nat) :
    Prop where
  /-- A connection that was open before is handed out only if it may be lent. -/
  reused : ∀ call connection, s.HandsOut event call connection → connection ∈ s.opened →
    ∃ opened since, openedAt connection = some opened ∧ idleFrom connection = some since ∧
      Usable config (s.step event) connection opened since
  /-- A borrower begins to wait for a new connection only if none is idle. -/
  opening : ∀ call, s.get? call ≠ some .opening → (s.step event).get? call = some .opening →
    s.idle = [] ∧ (s.step event).idle = []
  /-- An idle connection that a borrower takes is handed out, or is to be closed for one reason. -/
  passedOver : ∀ connection, s.isIdle connection = true → (s.step event).isIdle connection = false →
    event.clears = false → ∃ call, s.HandsOut event call connection ∨
      ∃ opened since, openedAt connection = some opened ∧ idleFrom connection = some since ∧
        (s.step event).get? call = some (.discarding connection) ∧
        Rejected config s (s.step event) connection opened since

section Vetting

variable {s : State} {openedAt idleFrom : Nat → Option Nat} {event : Event} {call connection : Nat}

theorem Dated.usable (dated : Dated s openedAt idleFrom) (plain : Plain s)
    (hands : s.HandsOut event call connection) (opened : connection ∈ s.opened) :
    ∃ opened since, openedAt connection = some opened ∧ idleFrom connection = some since ∧
      Usable s.config (s.step event) connection opened since := by
  rcases (step_course dated.custody event).handsOut hands with fresh | ⟨_, checked⟩ |
    ⟨entry, taken, rfl, live, -⟩
  · contradiction
  · exact absurd checked (plain.ne_validating _ _)
  · have noted := dated.noted entry (taken.idle ▸ List.mem_cons_self)
    refine ⟨_, _, noted.opened, noted.idle, ?_, ?_, ?_⟩
    · exact fun closed => Bool.eq_false_iff.mp live (List.contains_iff_mem.mpr closed)
    · rw [taken.now]
      exact outlived_eq_false_iff.mp taken.young
    · rw [taken.now]
      exact overdue_eq_false_iff.mp taken.early

theorem Dated.opening (dated : Dated s openedAt idleFrom) (before : s.get? call ≠ some .opening)
    (after : (s.step event).get? call = some .opening) :
    s.idle = [] ∧ (s.step event).idle = [] := by
  cases (step_course dated.custody event).waits (mem_of_lookup after) with
  | before among => exact absurd (lookup_of_mem dated.custody.distinct.gets among) before
  | opening _ none => exact none
  | _ => contradiction

theorem Dated.passedOver (dated : Dated s openedAt idleFrom) (plain : Plain s)
    (before : s.isIdle connection = true) (after : (s.step event).isIdle connection = false)
    (keeps : event.clears = false) : ∃ call, s.HandsOut event call connection ∨
      ∃ opened since, openedAt connection = some opened ∧ idleFrom connection = some since ∧
        (s.step event).get? call = some (.discarding connection) ∧
        Rejected s.config s (s.step event) connection opened since := by
  obtain ⟨entry, member, rfl⟩ := isIdle_iff.mp before
  have gone : entry ∉ (s.step event).idle := by
    intro left
    rw [isIdle_of_mem left] at after
    contradiction
  have noted := dated.noted entry member
  obtain ⟨call, hands | ⟨closing, rejected⟩⟩ :=
    (step_course dated.custody event).leaves member gone plain.ownCheck keeps
  · exact ⟨call, .inl hands⟩
  · exact ⟨call, .inr ⟨_, _, noted.opened, noted.idle, closing, rejected⟩⟩

end Vetting

/-- However the calls interleave, a pool whose factory has no check of its own lends connections again
only while they may be lent, opens new ones only while none is idle, and passes an idle one over only
because it has outlived the pool's limit, or else has been idle for too long, or else is closed; the
counts tell which. -/
theorem reuse_vetted (config : Config) (past : List Event) (event : Event) :
    let first := State.ofConfig config false
    Vetted config (first.after past) event (first.openedAt past) (first.idleFrom past) := by
  intro first
  have dated : Dated (first.after past) (first.openedAt past) (first.idleFrom past) :=
    dated_after config false past
  have plain := Plain.after config past
  have configured : (first.after past).config = config := after_config first past
  refine ⟨?_, ?_, ?_⟩
  · intro call connection hands opened
    rw [← configured]
    exact dated.usable plain hands opened
  · exact fun _ => dated.opening
  · intro connection before after keeps
    rw [← configured]
    exact dated.passedOver plain before after keeps

/- The first idle connection is overdue, and while it is being closed the second is lost. -/
example :
    let s := (State.ofConfig { maxSize := 3, maxIdle := 3, idleTimeout := 5 } false).after
      [.get 0, .get 1, .get 2, .opened 0 1, .opened 1 2, .opened 2 3, .giveBack 1 false, .tick 4,
        .giveBack 2 false, .giveBack 3 false, .tick 2, .get 3, .lose 2, .tick 3, .discarded 3 true,
        .discarded 3 true]
    s.result? 3 = some (.ok 3) ∧ s.idle = [] ∧ s.closedCounts = (0, 0, 1) := by decide

end SqlProbe.Pool
