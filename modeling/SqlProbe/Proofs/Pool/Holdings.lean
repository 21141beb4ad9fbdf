import SqlProbe.Proofs.Pool.Effects

/-!
# Where the connections are

A connection that the pool has to look after is idle, borrowed, in the hands of a borrower that
examines it, on its way out, or being closed by a call that closes idle connections or the pool.
Every step moves connections between these places, adds one that has just been opened, or parts with
some. Here this is an equation between counts for each operation, and from the equations follows
that no connection is ever in two places.
-/

namespace SqlProbe.Pool

/-- The connection that is on its way out. -/
def Retiring.connection : Retiring → Nat
  | closing connection => connection
  | pending connection => connection

/-- The connections that a closing call has taken over and has not seen closed. -/
def Closer.connections : Closer → List Nat
  | draining connection rest _ => connection :: rest
  | finishing head rest => (head :: rest).map Retiring.connection

/-- The connections that closing calls have taken over. -/
def takenOver (closers : List (Nat × Closer)) : List Nat :=
  closers.flatMap fun entry => entry.2.connections

/-- The connections that a pool has to look after: the idle ones, the borrowed ones, those that
borrowers examine, those on their way out, and those that closing calls have taken over. -/
def State.held (s : State) : List Nat :=
  s.idle.map Idle.connection ++ s.loans.map Loan.connection ++ examined s.gets ++
    s.retiring.map Retiring.connection ++ takenOver s.closers

theorem count_held (s : State) (connection : Nat) : s.held.count connection =
    (s.idle.map Idle.connection).count connection +
      (s.loans.map Loan.connection).count connection + (examined s.gets).count connection +
      (s.retiring.map Retiring.connection).count connection +
      (takenOver s.closers).count connection := by
  simp only [State.held, List.count_append]

/-- Calls in progress have different numbers. -/
structure Distinct (s : State) : Prop where
  gets : (s.gets.map Prod.fst).Nodup
  closers : (s.closers.map Prod.fst).Nodup

/-- A step changes which connections are looked after: some are added, some are parted with. -/
structure Transfer (s t : State) (added removed : List Nat) : Prop where
  distinct : Distinct t
  held : ∀ connection, removed.count connection + t.held.count connection =
    added.count connection + s.held.count connection

namespace Transfer

variable {s t u : State} {added added' removed removed' : List Nat}

theorem trans (first : Transfer s t added removed) (second : Transfer t u added' removed') :
    Transfer s u (added ++ added') (removed ++ removed') where
  distinct := second.distinct
  held := by
    intro connection
    have first := first.held connection
    have second := second.held connection
    rw [List.count_append, List.count_append]
    omega

/-- Connections that are parted with and added again have only moved. -/
theorem moved {places : List Nat} (transfer : Transfer s t added' removed')
    (came : added'.Perm (added ++ places)) (went : removed'.Perm (removed ++ places)) :
    Transfer s t added removed where
  distinct := transfer.distinct
  held := by
    intro connection
    have held := transfer.held connection
    rw [came.count_eq, went.count_eq, List.count_append, List.count_append] at held
    omega

/-- What moves no connection. -/
theorem still (distinct : Distinct s) (same : t.idle = s.idle ∧ t.loans = s.loans ∧
      t.gets = s.gets ∧ t.retiring = s.retiring ∧ t.closers = s.closers) :
    Transfer s t [] [] := by
  obtain ⟨idle, loans, gets, retiring, closers⟩ := same
  refine ⟨⟨?_, ?_⟩, ?_⟩
  · rw [gets]
    exact distinct.gets
  · rw [closers]
    exact distinct.closers
  · intro connection
    rw [count_held, count_held, idle, loans, gets, retiring, closers]

end Transfer

/-! ### Borrowers -/

section Borrowers

variable {s : State} {call : Nat} {get : Get}

theorem transfer_leave (distinct : Distinct s) (found : s.get? call = some get) :
    Transfer s (s.leave call) [] get.connection?.toList := by
  obtain ⟨free, gets, eq, _, _, taken, distinct'⟩ := leave_spec distinct.gets found
  rw [eq]
  refine ⟨⟨distinct', distinct.closers⟩, ?_⟩
  intro connection
  have taken := taken.count_eq connection
  rw [List.count_append] at taken
  simp only [count_held, List.count_nil]
  omega

theorem transfer_fail (distinct : Distinct s) (found : s.get? call = some get) (cause : Error) :
    Transfer s (s.fail call cause) [] get.connection?.toList := by
  have left := transfer_leave distinct found
  have failed : Transfer (s.leave call) (s.fail call cause) [] [] :=
    .still left.distinct ⟨rfl, rfl, rfl, rfl, rfl⟩
  simpa only [List.append_nil] using left.trans failed

theorem transfer_setGet (distinct : Distinct s) (found : s.get? call = some get) (new : Get) :
    Transfer s (s.setGet call new) new.connection?.toList get.connection?.toList := by
  have exchange := exchange_setGet distinct.gets found new
  refine ⟨⟨exchange.distinct distinct.gets, distinct.closers⟩, ?_⟩
  intro connection
  have taken := exchange.examined_perm.count_eq connection
  rw [List.count_append, List.count_append] at taken
  simp only [Option.bind_some] at taken
  rw [count_held, count_held]
  change _ + ((s.idle.map Idle.connection).count connection +
    (s.loans.map Loan.connection).count connection + _ +
    (s.retiring.map Retiring.connection).count connection +
    (takenOver s.closers).count connection) = _
  omega

theorem transfer_lend (distinct : Distinct s) (found : s.get? call = some get) (loan : Loan) :
    Transfer s (s.lend call loan) [loan.connection] get.connection?.toList := by
  have exchange := exchange_lend distinct.gets found loan
  refine ⟨⟨exchange.distinct distinct.gets, distinct.closers⟩, ?_⟩
  intro connection
  have taken := exchange.examined_perm.count_eq connection
  rw [List.count_append, List.count_append] at taken
  simp only [Option.bind_some, Option.bind_none, Option.toList_none, List.count_nil] at taken
  have lent : ((s.lend call loan).loans.map Loan.connection).count connection =
      (s.loans.map Loan.connection).count connection + [loan.connection].count connection := by
    change ((s.loans ++ [loan]).map Loan.connection).count connection = _
    rw [List.map_append, List.count_append, List.map_singleton]
  rw [count_held, count_held, lent]
  change _ + ((s.idle.map Idle.connection).count connection + _ + _ +
    (s.retiring.map Retiring.connection).count connection +
    (takenOver s.closers).count connection) = _
  omega

/-- Taking away the first idle connection. -/
theorem transfer_pop (distinct : Distinct s) {entry : Idle} {idle : List Idle}
    (first : s.idle = entry :: idle) (pastLifetime pastIdleTimeout : Nat) :
    Transfer s { s with idle, pastLifetime, pastIdleTimeout } [] [entry.connection] := by
  refine ⟨⟨distinct.gets, distinct.closers⟩, ?_⟩
  intro connection
  simp only [count_held, first, List.map_cons, List.count_cons, List.count_nil]
  omega

/-- A borrower parts with the connection that it has examined and takes the next idle one. -/
theorem transfer_examine (distinct : Distinct s) (found : s.get? call = some get) :
    Transfer s (s.examine call) [] get.connection?.toList := by
  rcases examine_cases s call with ⟨_, eq⟩ |
    ⟨entry, idle, pastLifetime, pastIdleTimeout, first, ⟨new, _, taken, eq⟩ | eq⟩
  · rw [eq]
    exact transfer_setGet distinct found .opening
  · have popped := transfer_pop distinct first pastLifetime pastIdleTimeout
    have put := transfer_setGet popped.distinct found new
    rw [taken] at put
    rw [eq]
    exact (popped.trans put).moved .rfl List.perm_append_comm
  · have popped := transfer_pop distinct first s.pastLifetime s.pastIdleTimeout
    rw [eq]
    exact (popped.trans (transfer_lend popped.distinct found _)).moved .rfl List.perm_append_comm

theorem transfer_startGet (distinct : Distinct s) (new : s.get? call = none) :
    Transfer s (s.startGet call) [] [] := by
  rcases startGet_cases distinct.gets new with ⟨_, _, eq⟩ |
    ⟨_, free, get, gets, _, _, exchange, distinct', found, nothing, started⟩
  · rw [eq]
    exact .still distinct ⟨rfl, rfl, rfl, rfl, rfl⟩
  · have arrived : Transfer s { s with waiting := s.waiting + 1, free, gets } [] [] := by
      refine ⟨⟨distinct', distinct.closers⟩, ?_⟩
      intro connection
      have taken := exchange.examined_perm.count_eq connection
      simp only [Option.bind_none, Option.bind_some, nothing, Option.toList_none,
        List.nil_append] at taken
      simp only [count_held, taken]
    rcases started with eq | ⟨_, eq⟩
    · rw [eq]
      exact arrived
    · have offered := transfer_examine arrived.distinct found
      rw [nothing] at offered
      rw [eq]
      exact arrived.trans offered

theorem transfer_release (distinct : Distinct s) : Transfer s s.release [] [] := by
  obtain ⟨free, gets, eq, _, _, taken, distinct'⟩ := release_spec s
  rw [eq]
  refine ⟨⟨distinct' distinct.gets, distinct.closers⟩, ?_⟩
  intro connection
  simp only [count_held, taken.count_eq]

end Borrowers

/-! ### Connections that come back -/

section Returns

variable {s : State}

/-- The connections whose closing has ended and that nobody has waited for. -/
def State.finished (s : State) : List Retiring :=
  s.retiring.filter fun entry => !entry.isUnfinished s.closings

theorem transfer_retire (distinct : Distinct s) (connection : Nat) (outside : Bool) :
    Transfer s (s.retire connection outside) [connection] (s.finished.map Retiring.connection) := by
  have parts (other : Nat) : ((s.retiring.filter (Retiring.isUnfinished s.closings)).map
      Retiring.connection).count other + (s.finished.map Retiring.connection).count other =
      (s.retiring.map Retiring.connection).count other := by
    rw [← List.count_append, ← List.map_append]
    exact ((List.filter_append_perm _ _).map _).count_eq other
  refine ⟨?_, ?_⟩
  · cases outside <;> exact ⟨distinct.gets, distinct.closers⟩
  · intro other
    have parts := parts other
    cases outside <;>
    · simp only [State.retire, Bool.false_eq_true, ↓reduceIte, count_held, List.map_append,
        List.map_singleton, Retiring.connection, List.count_append]
      omega

theorem transfer_unlend (distinct : Distinct s) {loan : Loan} (lent : loan ∈ s.loans)
    (active : Nat) :
    Transfer s { s with loans := s.loans.erase loan, active } [] [loan.connection] := by
  refine ⟨⟨distinct.gets, distinct.closers⟩, ?_⟩
  intro connection
  have erased := ((List.perm_cons_erase lent).map Loan.connection).count_eq connection
  rw [List.map_cons, ← List.singleton_append, List.count_append] at erased
  simp only [count_held, List.count_nil]
  omega

theorem transfer_keep (distinct : Distinct s) (entry : Idle) :
    Transfer s { s with idle := s.idle ++ [entry] } [entry.connection] [] := by
  refine ⟨⟨distinct.gets, distinct.closers⟩, ?_⟩
  intro connection
  simp only [count_held, List.map_append, List.map_singleton, List.count_append, List.count_nil]
  omega

/-- A loan that comes back is parted with if it is closed, and otherwise only moves. -/
theorem transfer_giveBack (distinct : Distinct s) {loan : Loan} (lent : loan ∈ s.loans)
    (active : Nat) (outside : Bool) : ∃ removed, Transfer s
      ({ s with loans := s.loans.erase loan, active }.takeBack loan outside).release [] removed ∧
      ∀ connection ∈ removed, connection ∈ s.closed ∨
        connection ∈ s.finished.map Retiring.connection := by
  have unlent := transfer_unlend distinct lent active
  rcases takeBack_cases { s with loans := s.loans.erase loan, active } loan outside with
    ⟨closed, eq⟩ | ⟨pastLifetime, overIdleCap, eq⟩ | ⟨_, eq⟩
  · refine ⟨[loan.connection], ?_, ?_⟩
    · rw [eq]
      exact unlent.trans (transfer_release unlent.distinct)
    · intro connection member
      rw [List.mem_singleton.mp member]
      exact .inl closed
  · refine ⟨s.finished.map Retiring.connection, ?_, fun _ member => .inr member⟩
    have counted : Transfer s
        { s with loans := s.loans.erase loan, active, pastLifetime, overIdleCap } [] _ :=
      unlent.trans (.still unlent.distinct ⟨rfl, rfl, rfl, rfl, rfl⟩)
    have retired := transfer_retire counted.distinct loan.connection outside
    have moved : Transfer s _ [] (s.finished.map Retiring.connection) :=
      (counted.trans retired).moved .rfl List.perm_append_comm
    rw [eq]
    simpa only [List.append_nil] using moved.trans (transfer_release retired.distinct)
  · refine ⟨[], ?_, fun _ member => nomatch member⟩
    have kept := transfer_keep unlent.distinct ⟨loan.connection, loan.createdAt, s.now⟩
    have moved := (unlent.trans kept).moved .rfl List.perm_append_comm
    rw [eq]
    exact moved.trans (transfer_release kept.distinct)

end Returns

/-! ### Closing calls -/

section Closing

variable {s : State} (call : Nat)

/-- The connections of a closing call, if it is still in progress. -/
def connectionsOf : Option Closer → List Nat
  | none => []
  | some closer => closer.connections

/-- A call that goes on or ends gives up what it has taken over so far. -/
theorem takenOver_others (distinct : Distinct s) (connection : Nat) :
    (takenOver s.closers).count connection = (connectionsOf (s.closer? call)).count connection +
      (takenOver (others call s.closers)).count connection := by
  cases found : s.closer? call with
  | none =>
    rw [others_of_absent found, connectionsOf, List.count_nil, Nat.zero_add]
  | some closer =>
    have perm := (perm_others distinct.closers found).flatMap_right
      (fun entry => entry.2.connections)
    rw [takenOver, perm.count_eq, List.flatMap_cons, List.count_append]
    rfl

theorem takenOver_setCloser (new : Option Closer) (connection : Nat) :
    (takenOver (s.setCloser call new).closers).count connection =
      (takenOver (others call s.closers)).count connection + (connectionsOf new).count connection := by
  change (takenOver (others call s.closers ++ (new.map (call, ·)).toList)).count connection = _
  rw [takenOver, List.flatMap_append, List.count_append]
  cases new with
  | none => rfl
  | some closer =>
    simp only [Option.map_some, Option.toList_some, List.flatMap_cons, List.flatMap_nil,
      List.append_nil]
    rfl

theorem distinct_setCloser (distinct : Distinct s) (new : Option Closer) :
    Distinct (s.setCloser call new) := by
  have fewer : ((others call s.closers).map Prod.fst).Nodup :=
    distinct.closers.sublist (List.filter_sublist.map _)
  refine ⟨distinct.gets, ?_⟩
  cases new with
  | none =>
    change ((others call s.closers ++ []).map Prod.fst).Nodup
    rwa [List.append_nil]
  | some closer =>
    refine distinct_append ?_ fewer closer
    intro entry member
    exact of_decide_eq_true (List.mem_filter.mp member).2

theorem transfer_setCloser (distinct : Distinct s) (new : Option Closer) :
    Transfer s (s.setCloser call new) (connectionsOf new) (connectionsOf (s.closer? call)) := by
  refine ⟨distinct_setCloser call distinct new, ?_⟩
  intro connection
  rw [count_held, count_held, takenOver_others call distinct, takenOver_setCloser]
  change _ + ((s.idle.map Idle.connection).count connection +
    (s.loans.map Loan.connection).count connection + (examined s.gets).count connection +
    (s.retiring.map Retiring.connection).count connection + _) = _
  omega

theorem transfer_finishNext (distinct : Distinct s) (rest : List Retiring) :
    Transfer s (s.finishNext call rest) (rest.map Retiring.connection)
      (connectionsOf (s.closer? call)) := by
  cases rest with
  | nil => exact transfer_setCloser call distinct none
  | cons head rest => exact transfer_setCloser call distinct (some (.finishing head rest))

theorem transfer_drainNext (distinct : Distinct s) (wholePool : Bool) (rest : List Nat) :
    Transfer s (s.drainNext call wholePool rest) rest (connectionsOf (s.closer? call)) := by
  cases rest with
  | cons connection rest =>
    exact transfer_setCloser call distinct (some (.draining connection rest wholePool))
  | nil =>
    cases wholePool with
    | false => exact transfer_setCloser call distinct none
    | true =>
      have cleared : Transfer s { s with retiring := [] } [] (s.retiring.map Retiring.connection) := by
        refine ⟨⟨distinct.gets, distinct.closers⟩, ?_⟩
        intro connection
        simp only [count_held, List.map_nil, List.count_nil]
        omega
      exact (cleared.trans (transfer_finishNext call cleared.distinct s.retiring)).moved .rfl
        List.perm_append_comm

theorem transfer_drain (distinct : Distinct s) (new : s.closer? call = none) (wholePool : Bool) :
    Transfer s (s.drain call wholePool) [] [] := by
  have cleared : Transfer s { s with idle := [] } [] (s.idle.map Idle.connection) := by
    refine ⟨⟨distinct.gets, distinct.closers⟩, ?_⟩
    intro connection
    simp only [count_held, List.map_nil, List.count_nil]
    omega
  have drained := transfer_drainNext call cleared.distinct wholePool (s.idle.map Idle.connection)
  rw [show State.closer? { s with idle := [] } call = none from new] at drained
  exact (cleared.trans drained).moved .rfl List.perm_append_comm

end Closing

/-! ### What a step parts with -/

/-- No driver call that is to close a connection ends without having done so. -/
def Event.closes : Event → Bool
  | discarded _ closed => closed
  | retired _ closed => closed
  | drained _ closed => closed
  | _ => true

/-- The entries that a closing call has taken over from those on their way out. -/
def Closer.departing : Closer → List Retiring
  | draining _ _ _ => []
  | finishing head rest => head :: rest

/-- The connections on their way out, those that closing calls have taken over included. -/
def State.departing (s : State) : List Retiring :=
  s.retiring ++ s.closers.flatMap fun entry => entry.2.departing

/-- The connection that a borrower has in hand when it has waited for too long or goes away. -/
def State.abandons (s : State) : Event → List Nat
  | .expire call => ((s.get? call).bind Get.connection?).toList
  | .cancel call => ((s.get? call).bind Get.connection?).toList
  | _ => []

/-- Why a pool parts with a connection. -/
inductive Parting (s : State) (event : Event) (t : State) (connection : Nat) : Prop
  | abandoned (member : connection ∈ s.abandons event)
  | closed (member : connection ∈ t.closed)
  | unclosed (failed : event.closes = false)
  | ended (departing : .closing connection ∈ s.departing) (ceased : connection ∉ s.closings)

/-- Why a connection is new: a borrower was waiting for it, or it was to be opened in advance. -/
inductive Brings (s : State) : Event → Nat → Prop
  | borrower {call connection : Nat} (found : s.get? call = some .opening) :
      Brings s (.opened call connection) connection
  | warmUp {call connection : Nat} (warming : call ∈ s.warmUps) :
      Brings s (.warmed call connection) connection

/-- What a step does to the connections of a pool: at most one is new, and it parts with others for
a reason only. -/
structure Account (s : State) (event : Event) (t : State) (added : Option Nat)
    (removed : List Nat) : Prop where
  transfer : Transfer s t added.toList removed
  opened : t.opened = added.toList ++ s.opened
  fresh : ∀ connection ∈ added, connection ∉ s.opened
  brought : ∀ connection ∈ added, Brings s event connection
  parted : ∀ connection ∈ removed, Parting s event t connection

section Steps

variable {s t : State} {event : Event} {connection : Nat}

theorem Account.quiet (transfer : Transfer s t [] []) (opened : t.opened = s.opened) :
    Account s event t none [] :=
  ⟨transfer, opened, (fun _ member => nomatch member), (fun _ member => nomatch member),
    (fun _ member => nomatch member)⟩

theorem Account.parts {removed : List Nat} (transfer : Transfer s t [] removed)
    (opened : t.opened = s.opened)
    (parted : ∀ connection ∈ removed, Parting s event t connection) :
    Account s event t none removed :=
  ⟨transfer, opened, (fun _ member => nomatch member), (fun _ member => nomatch member), parted⟩

theorem Account.partsWith (transfer : Transfer s t [] [connection]) (opened : t.opened = s.opened)
    (parting : Parting s event t connection) : Account s event t none [connection] :=
  .parts transfer opened fun _ member => List.mem_singleton.mp member ▸ parting

theorem Account.adds (transfer : Transfer s t [connection] [])
    (opened : t.opened = connection :: s.opened) (fresh : connection ∉ s.opened)
    (brought : Brings s event connection) : Account s event t (some connection) [] :=
  ⟨transfer, opened, (fun _ member => Option.mem_some.mp member ▸ fresh),
    (fun _ member => Option.mem_some.mp member ▸ brought), (fun _ member => nomatch member)⟩

theorem transfer_noteClosed (distinct : Distinct s) (connection : Nat) (closed : Bool) :
    Transfer s (s.noteClosed connection closed) [] [] := by
  rw [noteClosed_eq]
  exact .still distinct ⟨rfl, rfl, rfl, rfl, rfl⟩

theorem transfer_noteOpened (distinct : Distinct s) (connection : Nat) :
    Transfer s (s.noteOpened connection) [] [] := .still distinct ⟨rfl, rfl, rfl, rfl, rfl⟩

/-- An attempt to close a connection has ended with the connection closed, unless it failed. -/
theorem parting_noteClosed (closed : Bool) (same : event.closes = closed)
    (kept : t.closed = (s.noteClosed connection closed).closed) :
    Parting s event t connection := by
  cases closed with
  | false => exact .unclosed same
  | true =>
    refine .closed ?_
    rw [kept]
    exact List.mem_cons_self

theorem finished_spec (member : connection ∈ s.finished.map Retiring.connection) :
    Retiring.closing connection ∈ s.departing ∧ connection ∉ s.closings := by
  obtain ⟨entry, kept, rfl⟩ := List.mem_map.mp member
  obtain ⟨kept, ceased⟩ := List.mem_filter.mp kept
  cases entry with
  | pending => contradiction
  | closing connection =>
    refine ⟨List.mem_append_left _ kept, ?_⟩
    change connection ∉ s.closings
    simpa [Retiring.isUnfinished] using ceased

theorem departing_of_closer? {call : Nat} {head : Retiring} {rest : List Retiring}
    (found : s.closer? call = some (.finishing head rest)) : head ∈ s.departing := by
  refine List.mem_append_right _ (List.mem_flatMap.mpr ⟨_, mem_of_lookup found, ?_⟩)
  exact List.mem_cons_self

theorem account_discarded (distinct : Distinct s) {call : Nat}
    (found : s.get? call = some (.discarding connection)) (closed : Bool) :
    Account s (.discarded call closed) ((s.noteClosed connection closed).examine call) none
      [connection] := by
  have noted := transfer_noteClosed distinct connection closed
  have examined := undisturbed_examine (s.noteClosed connection closed) call
  rw [← noteClosed_get? s call connection closed] at found
  refine .partsWith (noted.trans (transfer_examine noted.distinct found)) ?_
    (parting_noteClosed closed rfl examined.closed)
  rw [examined.opened, noteClosed_opened]

theorem account_left (distinct : Distinct s) (call : Nat) :
    ∃ removed, Account s (.cancel call) (s.leave call) none removed := by
  cases found : s.get? call with
  | none =>
    rw [leave_of_absent found]
    exact ⟨[], .quiet (.still distinct ⟨rfl, rfl, rfl, rfl, rfl⟩) rfl⟩
  | some get =>
    refine ⟨_, .parts (transfer_leave distinct found) (undisturbed_leave s call).opened ?_⟩
    intro connection member
    refine .abandoned ?_
    rw [State.abandons, found]
    exact member

theorem account_givenBack (distinct : Distinct s) {loan : Loan} (lent : loan ∈ s.loans)
    (outside : Bool) : ∃ removed, Account s (.giveBack connection outside)
      ({ s with loans := s.loans.erase loan, active := s.active - 1 }.takeBack loan
        outside).release none removed := by
  obtain ⟨removed, transfer, parted⟩ := transfer_giveBack distinct lent (s.active - 1) outside
  have untouched := untouched_giveBack s (s.loans.erase loan) (s.active - 1) loan outside
  refine ⟨removed, .parts transfer untouched.opened ?_⟩
  intro connection member
  rcases parted connection member with closed | ceased
  · refine .closed ?_
    rw [untouched.closed]
    exact closed
  · obtain ⟨departing, ceased⟩ := finished_spec ceased
    exact .ended departing ceased

theorem account_warmed (distinct : Distinct s) {call : Nat} (warming : call ∈ s.warmUps)
    (fresh : connection ∉ s.opened) :
    Account s (.warmed call connection) (((s.noteOpened connection).putWarm connection).warm call)
      (some connection) [] := by
  have noted := transfer_noteOpened distinct connection
  have put : Transfer (s.noteOpened connection) ((s.noteOpened connection).putWarm connection)
      [connection] [] := transfer_keep noted.distinct ⟨connection, s.now, s.now⟩
  obtain ⟨_, eq⟩ := warm_eq ((s.noteOpened connection).putWarm connection) call
  rw [eq]
  exact .adds ((noted.trans put).trans (.still put.distinct ⟨rfl, rfl, rfl, rfl, rfl⟩)) rfl fresh
    (.warmUp warming)

theorem opened_drain (call : Nat) (wholePool : Bool) : (s.drain call wholePool).opened = s.opened := by
  obtain ⟨_, _, eq⟩ := drain_eq s call wholePool
  rw [eq]

theorem account_drained (distinct : Distinct s) {call : Nat} {rest : List Nat} {wholePool : Bool}
    (found : s.closer? call = some (.draining connection rest wholePool)) (closed : Bool) :
    Account s (.drained call closed) ((s.noteClosed connection closed).drainNext call wholePool rest)
      none [connection] := by
  have noted := transfer_noteClosed distinct connection closed
  have next := transfer_drainNext call noted.distinct wholePool rest
  rw [noteClosed_closer?, found] at next
  obtain ⟨_, _, eq⟩ := drainNext_eq (s.noteClosed connection closed) call wholePool rest
  refine .partsWith ((noted.trans next).moved .rfl .rfl) ?_ (parting_noteClosed closed rfl ?_)
  · rw [eq]
    exact noteClosed_opened s connection closed
  · rw [eq]

theorem account_finished (distinct : Distinct s) {call : Nat} {rest : List Retiring}
    (found : s.closer? call = some (.finishing (.pending connection) rest)) (closed : Bool) :
    Account s (.drained call closed) ((s.noteClosed connection closed).finishNext call rest)
      none [connection] := by
  have noted := transfer_noteClosed distinct connection closed
  have next := transfer_finishNext call noted.distinct rest
  rw [noteClosed_closer?, found] at next
  obtain ⟨_, eq⟩ := finishNext_eq (s.noteClosed connection closed) call rest
  refine .partsWith ((noted.trans next).moved .rfl .rfl) ?_ (parting_noteClosed closed rfl ?_)
  · rw [eq]
    exact noteClosed_opened s connection closed
  · rw [eq]

theorem account_joined (distinct : Distinct s) {call : Nat} {rest : List Retiring}
    (found : s.closer? call = some (.finishing (.closing connection) rest))
    (ended : connection ∉ s.closings) :
    Account s (.joined call) (s.finishNext call rest) none [connection] := by
  have next := transfer_finishNext call distinct rest
  rw [found] at next
  obtain ⟨_, eq⟩ := finishNext_eq s call rest
  refine .partsWith (next.moved .rfl .rfl) ?_ (.ended (departing_of_closer? found) ended)
  rw [eq]

/-- Every step accounts for the connections that it opens and those that it parts with. -/
theorem step_account (distinct : Distinct s) (event : Event) :
    ∃ added removed, Account s event (s.step event) added removed := by
  have effect := step_effect s event
  generalize s.step event = t at effect ⊢
  cases effect with
  | nothing => exact ⟨none, [], .quiet (.still distinct ⟨rfl, rfl, rfl, rfl, rfl⟩) rfl⟩
  | tick => exact ⟨none, [], .quiet (.still distinct ⟨rfl, rfl, rfl, rfl, rfl⟩) rfl⟩
  | lose => exact ⟨none, [], .quiet (.still distinct ⟨rfl, rfl, rfl, rfl, rfl⟩) rfl⟩
  | get new =>
    exact ⟨none, [], .quiet (transfer_startGet distinct new) (undisturbed_startGet s _).opened⟩
  | turnedAway found waits =>
    have transfer := transfer_fail distinct found poolClosed
    rcases waits with rfl | rfl <;>
      exact ⟨none, [], .quiet transfer (undisturbed_fail s _ _).opened⟩
  | turn found =>
    exact ⟨none, [], .quiet (transfer_examine distinct found) (undisturbed_examine s _).opened⟩
  | usable found =>
    exact ⟨none, [], .quiet ((transfer_lend distinct found _).moved .rfl .rfl) rfl⟩
  | unusable found =>
    exact ⟨none, [], .quiet ((transfer_setGet distinct found _).moved .rfl .rfl) rfl⟩
  | discarded closed found => exact ⟨none, _, account_discarded distinct found closed⟩
  | @opened call connection found fresh =>
    have noted := transfer_noteOpened distinct connection
    exact ⟨some connection, [],
      .adds (noted.trans (transfer_lend noted.distinct found _)) rfl fresh (.borrower found)⟩
  | refused cause found =>
    exact ⟨none, [], .quiet (transfer_fail distinct found cause) (undisturbed_fail s _ _).opened⟩
  | expired found =>
    refine ⟨none, _, .parts (transfer_fail distinct found _) (undisturbed_fail s _ _).opened ?_⟩
    intro connection member
    refine .abandoned ?_
    rw [State.abandons, found]
    exact member
  | cancelled call => exact ⟨none, account_left distinct call⟩
  | givenBack outside lent => exact ⟨none, account_givenBack distinct lent outside⟩
  | retired closed =>
    rw [noteClosed_eq]
    exact ⟨none, [], .quiet (.still distinct ⟨rfl, rfl, rfl, rfl, rfl⟩) rfl⟩
  | warmUp =>
    obtain ⟨_, eq⟩ := warm_eq s _
    rw [eq]
    exact ⟨none, [], .quiet (.still distinct ⟨rfl, rfl, rfl, rfl, rfl⟩) rfl⟩
  | warmed warming fresh => exact ⟨_, [], account_warmed distinct warming fresh⟩
  | warmFailed => exact ⟨none, [], .quiet (.still distinct ⟨rfl, rfl, rfl, rfl, rfl⟩) rfl⟩
  | closeIdle new =>
    exact ⟨none, [], .quiet (transfer_drain _ distinct new false) (opened_drain _ false)⟩
  | @close call new =>
    have told : Transfer s { s with shut := true } [] [] :=
      .still distinct ⟨rfl, rfl, rfl, rfl, rfl⟩
    exact ⟨none, [],
      .quiet (told.trans (transfer_drain call told.distinct new true)) (opened_drain _ true)⟩
  | drained closed found => exact ⟨none, _, account_drained distinct found closed⟩
  | finished closed found => exact ⟨none, _, account_finished distinct found closed⟩
  | joined found ended => exact ⟨none, _, account_joined distinct found ended⟩

end Steps

/-! ### Runs -/

/-- The connections that a pool looks after have been opened, and none is in two places. -/
structure Custody (s : State) : Prop where
  distinct : Distinct s
  once : s.held.Nodup
  known : ∀ connection ∈ s.held, connection ∈ s.opened

namespace Custody

variable {s t : State} {event : Event} {added : Option Nat} {removed : List Nat}

theorem ofConfig (config : Config) (ownCheck : Bool) : Custody (State.ofConfig config ownCheck) where
  distinct := ⟨List.nodup_nil, List.nodup_nil⟩
  once := List.nodup_nil
  known := fun _ member => nomatch member

/-- No idle connection is lent at the same time. -/
theorem idle_ne_lent (custody : Custody s) {entry : Idle} (idle : entry ∈ s.idle) {loan : Loan}
    (lent : loan ∈ s.loans) : entry.connection ≠ loan.connection := by
  have once := custody.once
  simp only [State.held, List.append_assoc] at once
  obtain ⟨_, -, apart⟩ := List.nodup_append.mp once
  refine apart _ (List.mem_map_of_mem idle) _ ?_
  exact List.mem_append_left _ (List.mem_map_of_mem lent)

/-- No borrower has an idle connection in hand. -/
theorem idle_ne_examined (custody : Custody s) {entry : Idle} (idle : entry ∈ s.idle)
    {examining : Nat × Get} (waits : examining ∈ s.gets) {connection : Nat}
    (inHand : examining.2.connection? = some connection) : entry.connection ≠ connection := by
  have once := custody.once
  simp only [State.held, List.append_assoc] at once
  obtain ⟨_, -, apart⟩ := List.nodup_append.mp once
  refine apart _ (List.mem_map_of_mem idle) _ ?_
  refine List.mem_append_right _ (List.mem_append_left _ ?_)
  exact List.mem_flatMap.mpr ⟨examining, waits, Option.mem_toList.mpr inHand⟩

theorem opened_of_idle (custody : Custody s) {entry : Idle} (idle : entry ∈ s.idle) :
    entry.connection ∈ s.opened := by
  refine custody.known _ ?_
  simp only [State.held, List.append_assoc]
  exact List.mem_append_left _ (List.mem_map_of_mem idle)

theorem perm (account : Account s event t added removed) :
    (removed ++ t.held).Perm (added.toList ++ s.held) := by
  rw [List.perm_iff_count]
  intro connection
  rw [List.count_append, List.count_append]
  exact account.transfer.held connection

/-- What is parted with and what is looked after afterwards are different connections. -/
theorem nodup_after (custody : Custody s) (account : Account s event t added removed) :
    (removed ++ t.held).Nodup := by
  rw [(perm account).nodup_iff]
  cases added with
  | none => exact custody.once
  | some connection =>
    refine List.nodup_cons.mpr ⟨?_, custody.once⟩
    intro member
    exact account.fresh connection rfl (custody.known connection member)

theorem step (custody : Custody s) (event : Event) : Custody (s.step event) := by
  obtain ⟨added, removed, account⟩ := step_account custody.distinct event
  refine ⟨account.transfer.distinct, (custody.nodup_after account).of_append_right, ?_⟩
  intro connection member
  have came := (perm account).subset (List.mem_append_right _ member)
  rw [account.opened]
  exact (List.mem_append.mp came).elim (List.mem_append_left _)
    fun before => List.mem_append_right _ (custody.known connection before)

theorem after (config : Config) (ownCheck : Bool) (events : List Event) :
    Custody ((State.ofConfig config ownCheck).after events) :=
  after_keeps (fun _ event custody => custody.step event) (ofConfig config ownCheck) events

end Custody

/-- No connection is ever in two places: however the calls interleave and end, the idle connections,
the borrowed ones, those that borrowers examine, those on their way out and those that closing calls
have taken over are all different. -/
theorem held_nodup (config : Config) (ownCheck : Bool) (events : List Event) :
    ((State.ofConfig config ownCheck).after events).held.Nodup :=
  (Custody.after config ownCheck events).once

end SqlProbe.Pool
