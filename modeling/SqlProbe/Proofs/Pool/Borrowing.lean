import SqlProbe.Proofs.Pool.Lending

/-!
# How borrowers fare

What an event of one borrower means for that borrower and for all others, in a pool that only lends.
The borrower waits on, gets a connection or is let down; to the others nothing happens, except that
one of those in the queue may have its turn. The calls in progress and the borrowed connections are
told as lists, so that whoever made the calls can tell from its own records which they are.
-/

namespace SqlProbe.Pool

/-- The calls in progress and the borrowed connections. -/
structure Shares (s : State) (calls connections : List Nat) : Prop where
  calls : (s.gets.map Prod.fst).Perm calls
  connections : (s.loans.map Loan.connection).Perm connections

/-- What happens to some borrowers leaves the others alone, except that they may have their turn. -/
structure Beside (own : List Nat) (s t : State) : Prop where
  get? : ∀ call, call ∉ own → t.get? call = s.get? call ∨
    s.get? call = some .queued ∧ t.get? call = some .granted
  result? : ∀ call, call ∉ own → t.result? call = s.result? call

namespace Beside

variable {own : List Nat} {s t u : State} {call : Nat} {get : Get}

theorem trans (first : Beside own s t) (second : Beside own t u) : Beside own s u := by
  refine ⟨?_, ?_⟩
  · intro call other
    rcases first.get? call other with same | ⟨queued, granted⟩
    · rw [← same]
      exact second.get? call other
    · rcases second.get? call other with same | ⟨again, _⟩
      · exact .inr ⟨queued, same.trans granted⟩
      · rw [granted] at again
        contradiction
  · intro call other
    exact (second.result? call other).trans (first.result? call other)

theorem mono {more : List Nat} (beside : Beside own s t) (among : own ⊆ more) : Beside more s t :=
  ⟨fun call other => beside.get? call fun member => other (among member),
    fun call other => beside.result? call fun member => other (among member)⟩

theorem same (gets : t.gets = s.gets) (results : t.results = s.results) : Beside own s t :=
  ⟨fun call _ => .inl (by rw [State.get?, gets]; rfl),
    fun call _ => by rw [State.result?, results]; rfl⟩

theorem release (s : State) : Beside own s s.release := by
  obtain ⟨_, _, eq, _⟩ := release_spec s
  refine ⟨fun call _ => (grants_release s).lookup call, fun call _ => ?_⟩
  rw [eq]
  rfl

theorem setGet (s : State) (call : Nat) (new : Get) : Beside [call] s (s.setGet call new) :=
  ⟨fun _ other => .inl (lookup_replace_of_ne (List.ne_of_not_mem_cons other) new), fun _ _ => rfl⟩

theorem without (s : State) (call : Nat) : Beside [call] s { s with gets := others call s.gets } :=
  ⟨fun _ other => .inl (lookup_others_of_ne (List.ne_of_not_mem_cons other)), fun _ _ => rfl⟩

theorem note (outcome : Except Error Nat) (gets : t.gets = s.gets)
    (results : t.results = (call, outcome) :: s.results) : Beside [call] s t := by
  refine ⟨fun _ _ => .inl (by rw [State.get?, gets]; rfl), fun third other => ?_⟩
  rw [State.result?, results, List.lookup_cons, beq_false_of_ne (List.ne_of_not_mem_cons other)]
  rfl

theorem lend (s : State) (call : Nat) (loan : Loan) : Beside [call] s (s.lend call loan) :=
  (without s call).trans (note (.ok loan.connection) rfl rfl)

theorem leave (s : State) (call : Nat) : Beside [call] s (s.leave call) := by
  rcases leave_cases s call with eq | eq
  · rw [eq]
    exact without s call
  · rw [eq]
    exact (without s call).trans (release _)

theorem fail (s : State) (call : Nat) (cause : Error) : Beside [call] s (s.fail call cause) :=
  (leave s call).trans (note (.error cause) rfl rfl)

theorem welcome (s : State) (call free : Nat) (get : Get) :
    Beside [call] s (s.welcome call free get) := by
  refine ⟨fun third other => .inl ?_, fun _ _ => rfl⟩
  have absent : [(call, get)].lookup third = none := by
    rw [List.lookup_cons, beq_false_of_ne (List.ne_of_not_mem_cons other)]
    rfl
  change (s.gets ++ [(call, get)]).lookup third = _
  rw [List.lookup_append, absent, Option.or_none]
  rfl

end Beside

/-! ### The lists -/

namespace Shares

variable {s t : State} {call connection : Nat} {get : Get} {calls connections : List Nat}

theorem mem_calls (shares : Shares s calls connections) (found : s.get? call = some get) :
    call ∈ calls :=
  shares.calls.subset (List.mem_map.mpr ⟨_, mem_of_lookup found, rfl⟩)

/-- No call is made twice. -/
theorem not_mem (shares : Shares s (call :: calls) connections)
    (distinct : (s.gets.map Prod.fst).Nodup) : call ∉ calls :=
  (List.nodup_cons.mp (shares.calls.nodup_iff.mp distinct)).1

theorem get?_eq_none (shares : Shares s calls connections) (absent : call ∉ calls) :
    s.get? call = none := by
  cases found : s.get? call with
  | none => rfl
  | some get => exact absurd (shares.mem_calls found) absent

theorem exists_get? (shares : Shares s calls connections) (member : call ∈ calls) :
    ∃ get, s.get? call = some get := by
  cases found : s.get? call with
  | some get => exact ⟨get, rfl⟩
  | none =>
    obtain ⟨entry, among, same⟩ := List.mem_map.mp (shares.calls.symm.subset member)
    exact absurd same (absent_of_lookup found entry among)

theorem same (shares : Shares s calls connections) (gets : t.gets.map Prod.fst = s.gets.map Prod.fst)
    (loans : t.loans = s.loans) : Shares t calls connections :=
  ⟨gets ▸ shares.calls, loans ▸ shares.connections⟩

theorem setGet (shares : Shares s calls connections) (call : Nat) (new : Get) :
    Shares (s.setGet call new) calls connections := by
  refine shares.same ?_ rfl
  change (s.gets.map _).map Prod.fst = _
  rw [List.map_map]
  refine List.map_congr_left fun entry _ => ?_
  rw [Function.comp_apply]
  split
  · next same => exact same.symm
  · rfl

theorem without (shares : Shares s (call :: calls) connections)
    (distinct : (s.gets.map Prod.fst).Nodup) (found : s.get? call = some get) :
    Shares { s with gets := others call s.gets } calls connections :=
  ⟨(((perm_others distinct found).map Prod.fst).symm.trans shares.calls).cons_inv,
    shares.connections⟩

theorem lend (shares : Shares s (call :: calls) connections)
    (distinct : (s.gets.map Prod.fst).Nodup) (found : s.get? call = some get) (loan : Loan) :
    Shares (s.lend call loan) calls (loan.connection :: connections) := by
  refine ⟨(shares.without distinct found).calls, ?_⟩
  change ((s.loans ++ [loan]).map Loan.connection).Perm _
  rw [List.map_append]
  exact (List.perm_append_singleton _ _).trans (shares.connections.cons _)

theorem release (shares : Shares s calls connections) : Shares s.release calls connections := by
  obtain ⟨_, _, eq, _⟩ := release_spec s
  refine shares.same (grants_release s).calls ?_
  rw [eq]

theorem fail (shares : Shares s (call :: calls) connections)
    (distinct : (s.gets.map Prod.fst).Nodup) (found : s.get? call = some get) (cause : Error) :
    Shares (s.fail call cause) calls connections := by
  have left := shares.without distinct found
  have gone : Shares (s.leave call) calls connections := by
    rcases leave_cases s call with eq | eq
    · rwa [eq]
    · rw [eq]
      exact left.release
  exact gone.same rfl rfl

theorem welcome (shares : Shares s calls connections) (call free : Nat) (get : Get) :
    Shares (s.welcome call free get) (call :: calls) connections := by
  refine ⟨?_, shares.connections⟩
  change ((s.gets ++ [(call, get)]).map Prod.fst).Perm _
  rw [List.map_append]
  exact (List.perm_append_singleton _ _).trans (shares.calls.cons _)

end Shares

/-! ### How a borrower stands -/

/-- How a borrower stands: it waits for something, it has a connection, or it has been let down. The
lists are those without it. -/
inductive Stands (s : State) (call : Nat) (get : Get) (calls connections : List Nat) : Prop
  | waits (found : s.get? call = some get) (shares : Shares s (call :: calls) connections)
  | lent {connection : Nat} (result : s.result? call = some (.ok connection))
      (shares : Shares s calls (connection :: connections))
  | failed {cause : Error} (result : s.result? call = some (.error cause))
      (shares : Shares s calls connections)

section Stands

variable {s : State} {call connection : Nat} {calls connections : List Nat}

theorem result?_lend (s : State) (call : Nat) (loan : Loan) :
    (s.lend call loan).result? call = some (.ok loan.connection) := List.lookup_cons_self

theorem result?_fail (s : State) (call : Nat) (cause : Error) :
    (s.fail call cause).result? call = some (.error cause) := List.lookup_cons_self

theorem stands_examine (offerable : Offerable s) (ownCheck : s.ownCheck = false)
    (distinct : (s.gets.map Prod.fst).Nodup) {get : Get} (found : s.get? call = some get)
    (shares : Shares s (call :: calls) connections) :
    Stands (s.examine call) call .opening calls connections ∧ Beside [call] s (s.examine call) := by
  rcases offerable.examine ownCheck call with ⟨_, eq⟩ | ⟨entry, idle, _, eq⟩
  · rw [eq]
    exact ⟨.waits (lookup_replace_self found .opening) (shares.setGet call .opening),
      .setGet s call .opening⟩
  · have popped : Shares { s with idle } (call :: calls) connections := shares.same rfl rfl
    have passed : Beside [call] s { s with idle } := .same rfl rfl
    rw [eq]
    exact ⟨.lent (result?_lend _ call _) (popped.lend distinct found _), passed.trans (.lend _ call _)⟩

theorem stands_get (lending : Lending s) (offerable : Offerable s) (new : s.get? call = none)
    (shares : Shares s calls connections) : ∃ get : Get, (get = .queued ∨ get = .opening) ∧
      Stands (s.step (.get call)) call get calls connections ∧
      Beside [call] s (s.step (.get call)) ∧ Serves s (s.step (.get call)) := by
  have step : s.step (.get call) = s.startGet call := by
    rw [State.step, if_neg (by simp [new])]
  have came (free : Nat) (get : Get) : Serves s (s.welcome call free get) :=
    ⟨⟨⟨rfl, rfl, rfl, rfl, rfl⟩, rfl, rfl⟩, rfl, rfl, rfl, List.Subset.refl _⟩
  rw [step]
  rcases startGet_eq lending.shut new with ⟨_, eq⟩ | ⟨_, eq⟩
  · rw [eq]
    exact ⟨.queued, .inl rfl, .waits (lookup_append new .queued) (shares.welcome call 0 .queued),
      .welcome s call 0 .queued, came 0 .queued⟩
  · have arrived := came (s.free - 1) .granted
    obtain ⟨stands, beside⟩ := stands_examine (offerable.serves arrived)
      (arrived.ownCheck.trans lending.ownCheck)
      (distinct_append (absent_of_lookup new) lending.balance.distinct .granted)
      (lookup_append new .granted) (shares.welcome call (s.free - 1) .granted)
    rw [eq]
    exact ⟨.opening, .inr rfl, stands, (Beside.welcome s call _ _).trans beside,
      arrived.trans (.examine _ call)⟩

theorem stands_resume (lending : Lending s) (offerable : Offerable s)
    (turn : s.get? call = some .granted) (shares : Shares s (call :: calls) connections) :
    Stands (s.step (.resume call)) call .opening calls connections ∧
      Beside [call] s (s.step (.resume call)) ∧ Serves s (s.step (.resume call)) := by
  have step : s.step (.resume call) = s.examine call := by
    simp only [State.step, turn, lending.shut, Bool.false_eq_true, if_false]
  obtain ⟨stands, beside⟩ :=
    stands_examine offerable lending.ownCheck lending.balance.distinct turn shares
  rw [step]
  exact ⟨stands, beside, .examine s call⟩

/-- A borrower gets the new connection that it has waited for. -/
theorem stands_opened (lending : Lending s) (waits : s.get? call = some .opening)
    (fresh : connection ∉ s.opened) (shares : Shares s (call :: calls) connections) :
    (s.step (.opened call connection)).result? call = some (.ok connection) ∧
      Shares (s.step (.opened call connection)) calls (connection :: connections) ∧
      Beside [call] s (s.step (.opened call connection)) ∧
      Serves (s.noteOpened connection) (s.step (.opened call connection)) := by
  have step : s.step (.opened call connection) =
      (s.noteOpened connection).lend call ⟨connection, s.now⟩ := by
    simp [State.step, waits, fresh]
  have noted : Shares (s.noteOpened connection) (call :: calls) connections := shares.same rfl rfl
  have passed : Beside [call] s (s.noteOpened connection) := .same rfl rfl
  rw [step]
  exact ⟨result?_lend _ call _, noted.lend lending.balance.distinct waits _,
    passed.trans (.lend _ call _), .lend _ call _⟩

/-- A borrower is let down. -/
theorem stands_fail (lending : Lending s) {get : Get} (found : s.get? call = some get) (cause : Error)
    (shares : Shares s (call :: calls) connections) :
    (s.fail call cause).result? call = some (.error cause) ∧
      Shares (s.fail call cause) calls connections ∧ Beside [call] s (s.fail call cause) ∧
      Serves s (s.fail call cause) :=
  ⟨result?_fail s call cause, shares.fail lending.balance.distinct found cause, .fail s call cause,
    .fail lending.balance.distinct found cause⟩

theorem step_refused (waits : s.get? call = some .opening) (cause : Error) :
    s.step (.refused call cause) = s.fail call cause := by
  simp only [State.step, waits]

theorem step_expire (lending : Lending s) {get : Get} (found : s.get? call = some get)
    (rests : get = .queued ∨ get = .opening) :
    s.step (.expire call) = s.fail call s.config.timedOut := by
  rcases rests with rfl | rfl <;>
    simp only [State.step, found, lending.shut, Bool.false_eq_true, if_false]

/-- A connection that is borrowed can come back. -/
theorem step_giveBack (shares : Shares s calls (connection :: connections)) :
    ∃ loan ∈ s.loans, loan.connection = connection ∧ s.step (.giveBack connection false) =
      ({ s with loans := s.loans.erase loan, active := s.active - 1 }.takeBack loan false).release := by
  have lent := shares.connections.symm.subset List.mem_cons_self
  simp only [State.step, State.giveBack]
  split
  · next none =>
    obtain ⟨loan, member, same⟩ := List.mem_map.mp lent
    exact absurd same (by simpa using List.find?_eq_none.mp none loan member)
  · next loan found =>
    exact ⟨loan, List.mem_of_find?_eq_some found, by simpa using List.find?_some found, rfl⟩

/-- A connection that comes back is borrowed no more, and at most one more is being closed. -/
theorem stands_giveBack (shares : Shares s calls (connection :: connections)) :
    Shares (s.step (.giveBack connection false)) calls connections ∧
      Beside [] s (s.step (.giveBack connection false)) ∧
      Untouched s (s.step (.giveBack connection false)) ∧
      ((s.step (.giveBack connection false)).closings = s.closings ∨
        (s.step (.giveBack connection false)).closings = s.closings ++ [connection]) := by
  obtain ⟨loan, lent, same, step⟩ := step_giveBack shares
  have fewer : Shares { s with loans := s.loans.erase loan, active := s.active - 1 } calls
      connections := by
    have parts := (List.perm_cons_erase lent).map Loan.connection
    rw [List.map_cons, same] at parts
    exact ⟨shares.calls, (parts.symm.trans shares.connections).cons_inv⟩
  have back : (∃ retiring closings idle pastLifetime overIdleCap,
      { s with loans := s.loans.erase loan, active := s.active - 1 }.takeBack loan false =
        { s with
          loans := s.loans.erase loan
          active := s.active - 1
          retiring, closings, idle, pastLifetime, overIdleCap } ∧
      (closings = s.closings ∨ closings = s.closings ++ [connection])) := by
    rcases takeBack_cases { s with loans := s.loans.erase loan, active := s.active - 1 } loan false
      with ⟨_, eq⟩ | ⟨_, _, eq⟩ | ⟨_, eq⟩
    · exact ⟨_, _, _, _, _, eq, .inl rfl⟩
    · exact ⟨_, _, _, _, _, eq, .inr (by rw [← same])⟩
    · exact ⟨_, _, _, _, _, eq, .inl rfl⟩
  obtain ⟨retiring, closings, idle, pastLifetime, overIdleCap, eq, kept⟩ := back
  have beside : Beside [] s
      { s with
        loans := s.loans.erase loan
        active := s.active - 1
        retiring, closings, idle, pastLifetime, overIdleCap } := .same rfl rfl
  rw [step]
  refine ⟨?_, ?_, untouched_giveBack s _ _ loan false, ?_⟩
  · rw [eq]
    refine Shares.release ?_
    exact fewer.same rfl rfl
  · rw [eq]
    exact beside.trans (.release _)
  · rw [(undisturbed_release _).closings, eq]
    exact kept

theorem offerable_giveBack (offerable : Offerable s)
    (shares : Shares s calls (connection :: connections)) :
    Offerable (s.step (.giveBack connection false)) := by
  obtain ⟨loan, lent, same, step⟩ := step_giveBack shares
  rw [step]
  refine Offerable.serves ?_ (.release _)
  unfold State.takeBack
  split
  · exact offerable
  split
  · exact offerable
  split
  · exact offerable
  split
  · exact offerable
  · next opened _ young _ =>
    intro entry member
    rcases List.mem_append.mp member with before | last
    · exact offerable entry before
    · rw [List.mem_singleton.mp last, offerExit?_eq_none]
      refine ⟨by simpa [State.outlived] using young, ?_, by simpa [State.isClosed] using opened⟩
      simp [State.overdue]

theorem step_retired (closing : connection ∈ s.closings) (closed : Bool) :
    s.step (.retired connection closed) =
      { s with
        closings := s.closings.erase connection
        closed := if closed then connection :: s.closed else s.closed } := by
  rw [State.step, if_pos (List.contains_iff_mem.mpr closing), noteClosed_eq]

/-- A connection that is being closed is not idle. -/
theorem offerable_retired (offerable : Offerable s) (lending : Lending s)
    (closing : connection ∈ s.closings) (closed : Bool) :
    Offerable (s.step (.retired connection closed)) := by
  have apart : ∀ entry ∈ s.idle, entry.connection ≠ connection := by
    intro entry member
    have once := lending.custody.once
    simp only [State.held, List.append_assoc] at once
    refine (List.nodup_append.mp once).2.2 _ (List.mem_map_of_mem member) _ ?_
    refine List.mem_append_right _ (List.mem_append_right _ (List.mem_append_left _ ?_))
    exact List.mem_map_of_mem (lending.closing connection closing)
  rw [step_retired closing]
  intro entry member
  have before := offerable entry member
  rw [offerExit?_eq_none] at before ⊢
  obtain ⟨young, early, opened⟩ := before
  refine ⟨young, early, ?_⟩
  cases closed with
  | false => exact opened
  | true => simpa [State.isClosed, apart entry member] using opened

end Stands

end SqlProbe.Pool
