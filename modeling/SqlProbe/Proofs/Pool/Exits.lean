import SqlProbe.Proofs.Pool.Turns

/-!
# How connections go

A connection that a pool has opened is idle or borrowed until a step makes it neither. Why it goes
can be told from the state before that step: it came back and may not be kept, its turn came and it
may not be lent, or a closing call takes it. Each operation accounts for those that it takes away by
these reasons, and by the counts that the pool keeps of three of them.
-/

namespace SqlProbe.Pool

/-- Why a connection is neither idle nor borrowed any more. -/
inductive Exit where
  | overIdleCap
  | pastLifetime
  | pastIdleTimeout
  /-- It was closed when it came back. -/
  | backClosed
  /-- It came back after the pool had been told to close. -/
  | backLate
  /-- It was closed when its turn came to be lent. -/
  | foundClosed
  /-- A closing call has taken it away. -/
  | drained
  deriving DecidableEq, Repr

/-- The pool keeps a count of those that have gone for this reason. -/
def Exit.isCounted : Exit → Bool
  | overIdleCap => true
  | pastLifetime => true
  | pastIdleTimeout => true
  | _ => false

namespace State

/-- The connections that are idle or borrowed. -/
def stock (s : State) : List Nat := s.idle.map Idle.connection ++ s.loans.map Loan.connection

/-- Why a connection that comes back is not kept. -/
def returnExit? (s : State) (loan : Loan) : Option Exit :=
  if s.isClosed loan.connection then some .backClosed
  else if s.shut then some .backLate
  else if s.outlived loan.createdAt then some .pastLifetime
  else if s.config.maxIdle ≤ s.idle.length then some .overIdleCap
  else none

/-- Why an idle connection is not lent. -/
def offerExit? (s : State) (entry : Idle) : Option Exit :=
  if s.outlived entry.createdAt then some .pastLifetime
  else if s.overdue entry.idleSince then some .pastIdleTimeout
  else if s.isClosed entry.connection then some .foundClosed
  else none

/-- Why an event takes a connection away: it came back, a closing call took it, or a borrower had its
turn. -/
def exit? (s : State) (connection : Nat) : Event → Option Exit
  | .giveBack _ _ => (s.loans.find? fun loan => loan.connection = connection).bind s.returnExit?
  | .closeIdle _ => some .drained
  | .close _ => some .drained
  | .get _ => (s.idle.find? fun entry => entry.connection = connection).bind s.offerExit?
  | .resume _ => (s.idle.find? fun entry => entry.connection = connection).bind s.offerExit?
  | .discarded _ _ => (s.idle.find? fun entry => entry.connection = connection).bind s.offerExit?
  | _ => none

/-- The connections that are idle or borrowed before an event and neither after it, with the
reasons. -/
def exits (s : State) (event : Event) : List (Nat × Exit) :=
  (s.stock.filter fun connection => !(s.step event).stock.contains connection).filterMap
    fun connection => (s.exit? connection event).map (connection, ·)

/-- All that have gone in the course of some events. -/
def ledger : State → List Event → List (Nat × Exit)
  | _, [] => []
  | s, event :: events => s.exits event ++ (s.step event).ledger events

/-- The count that a pool keeps of those that have gone for a reason; nothing where it keeps none. -/
def counter (s : State) : Exit → Nat
  | .overIdleCap => s.overIdleCap
  | .pastLifetime => s.pastLifetime
  | .pastIdleTimeout => s.pastIdleTimeout
  | _ => 0

end State

/-- How many have gone for a reason. -/
def tally (why : Exit) (gone : List (Nat × Exit)) : Nat := gone.countP fun exit => exit.2 = why

theorem tally_append (why : Exit) (gone later : List (Nat × Exit)) :
    tally why (gone ++ later) = tally why gone + tally why later := List.countP_append

/-- Each has gone for one reason, which the pool counts or does not. -/
theorem length_eq_tally (gone : List (Nat × Exit)) :
    gone.length = tally .overIdleCap gone + tally .pastLifetime gone +
      tally .pastIdleTimeout gone + gone.countP fun exit => !exit.2.isCounted := by
  induction gone with
  | nil => rfl
  | cons exit gone ih =>
    obtain ⟨connection, why⟩ := exit
    simp only [tally, List.length_cons, List.countP_cons] at ih ⊢
    generalize (gone.countP fun exit => !exit.2.isCounted) = uncounted at ih ⊢
    cases why <;>
    · simp [Exit.isCounted]
      omega

/-! ### What a step does to the stock -/

/-- A step adds at most one connection to those that are idle or borrowed and takes others away, and
counts what it does. -/
structure Passage (s t : State) (added : Option Nat) (gone : List (Nat × Exit)) : Prop where
  stock : (gone.map Prod.fst ++ t.stock).Perm (added.toList ++ s.stock)
  among : ∀ exit ∈ gone, exit.1 ∈ s.stock
  opened : t.opened = added.toList ++ s.opened
  fresh : ∀ connection ∈ added, connection ∉ s.opened
  created : t.created = s.created + added.toList.length
  active : s.active = s.loans.length → t.active = t.loans.length
  counter : ∀ why, why.isCounted = true → t.counter why = s.counter why + tally why gone

/-- Nothing goes and nothing comes. -/
structure Steady (s t : State) : Prop where
  idle : t.idle = s.idle
  loans : t.loans = s.loans
  opened : t.opened = s.opened
  created : t.created = s.created
  active : t.active = s.active
  counter : t.counter = s.counter

namespace Steady

variable {s t u : State} {added : Option Nat} {gone : List (Nat × Exit)}

theorem stock (steady : Steady s t) : t.stock = s.stock := by
  rw [State.stock, steady.idle, steady.loans, State.stock]

theorem passage (steady : Steady s t) : Passage s t none [] where
  stock := List.Perm.of_eq steady.stock
  among := fun _ member => nomatch member
  opened := steady.opened
  fresh := fun _ member => nomatch member
  created := steady.created
  active := by
    intro active
    rw [steady.active, steady.loans, active]
  counter := by
    intro why _
    rw [steady.counter]
    rfl

theorem trans (first : Steady s t) (second : Steady t u) : Steady s u where
  idle := second.idle.trans first.idle
  loans := second.loans.trans first.loans
  opened := second.opened.trans first.opened
  created := second.created.trans first.created
  active := second.active.trans first.active
  counter := second.counter.trans first.counter

/-- What is steady before a passage or after it does not matter. -/
theorem before (steady : Steady s t) (passage : Passage t u added gone) : Passage s u added gone where
  stock := steady.stock ▸ passage.stock
  among := steady.stock ▸ passage.among
  opened := steady.opened ▸ passage.opened
  fresh := steady.opened ▸ passage.fresh
  created := steady.created ▸ passage.created
  active := by
    intro active
    exact passage.active (by rw [steady.active, steady.loans, active])
  counter := steady.counter ▸ passage.counter

theorem after (passage : Passage s t added gone) (steady : Steady t u) : Passage s u added gone where
  stock := steady.stock ▸ passage.stock
  among := passage.among
  opened := steady.opened.trans passage.opened
  fresh := passage.fresh
  created := steady.created.trans passage.created
  active := by
    intro active
    rw [steady.active, steady.loans, passage.active active]
  counter := by
    intro why counted
    rw [steady.counter, passage.counter why counted]

theorem release (s : State) : Steady s s.release := by
  obtain ⟨_, _, eq, _⟩ := release_spec s
  rw [eq]
  exact ⟨rfl, rfl, rfl, rfl, rfl, rfl⟩

theorem leave (s : State) (call : Nat) : Steady s (s.leave call) := by
  have left : Steady s { s with gets := others call s.gets } := ⟨rfl, rfl, rfl, rfl, rfl, rfl⟩
  rcases leave_cases s call with eq | eq
  · rwa [eq]
  · rw [eq]
    exact left.trans (release _)

theorem fail (s : State) (call : Nat) (cause : Error) : Steady s (s.fail call cause) :=
  (leave s call).trans ⟨rfl, rfl, rfl, rfl, rfl, rfl⟩

theorem noteClosed (s : State) (connection : Nat) (closed : Bool) :
    Steady s (s.noteClosed connection closed) := by
  rw [noteClosed_eq]
  exact ⟨rfl, rfl, rfl, rfl, rfl, rfl⟩

theorem finishNext (s : State) (call : Nat) (rest : List Retiring) :
    Steady s (s.finishNext call rest) := by
  obtain ⟨_, eq⟩ := finishNext_eq s call rest
  rw [eq]
  exact ⟨rfl, rfl, rfl, rfl, rfl, rfl⟩

theorem drainNext (s : State) (call : Nat) (wholePool : Bool) (rest : List Nat) :
    Steady s (s.drainNext call wholePool rest) := by
  obtain ⟨_, _, eq⟩ := drainNext_eq s call wholePool rest
  rw [eq]
  exact ⟨rfl, rfl, rfl, rfl, rfl, rfl⟩

theorem warm (s : State) (call : Nat) : Steady s (s.warm call) := by
  obtain ⟨_, eq⟩ := warm_eq s call
  rw [eq]
  exact ⟨rfl, rfl, rfl, rfl, rfl, rfl⟩

theorem retire (s : State) (connection : Nat) (outside : Bool) :
    Steady s (s.retire connection outside) := by
  obtain ⟨_, _, eq⟩ := retire_eq s connection outside
  rw [eq]
  exact ⟨rfl, rfl, rfl, rfl, rfl, rfl⟩

end Steady

namespace Passage

variable {s : State}

/-- A connection is lent that was idle. -/
theorem lend {entry : Idle} {idle : List Idle} (first : s.idle = entry :: idle) (call : Nat)
    (createdAt : Nat) :
    Passage s ({ s with idle }.lend call ⟨entry.connection, createdAt⟩) none [] where
  stock := by
    change (idle.map Idle.connection ++ (s.loans ++ [_]).map Loan.connection).Perm
      (s.idle.map Idle.connection ++ s.loans.map Loan.connection)
    rw [first, List.map_append, ← List.append_assoc, List.map_singleton]
    exact List.perm_append_singleton _ _
  among := fun _ member => nomatch member
  opened := rfl
  fresh := fun _ member => nomatch member
  created := rfl
  active := by
    intro active
    change s.active + 1 = (s.loans ++ [_]).length
    rw [List.length_append, List.length_singleton, active]
  counter := fun why _ => by cases why <;> rfl

/-- A new connection is lent. -/
theorem lendNew {call connection : Nat} (fresh : connection ∉ s.opened) (createdAt : Nat) :
    Passage s ((s.noteOpened connection).lend call ⟨connection, createdAt⟩) (some connection) [] where
  stock := by
    change (s.idle.map Idle.connection ++ (s.loans ++ [_]).map Loan.connection).Perm
      (connection :: (s.idle.map Idle.connection ++ s.loans.map Loan.connection))
    rw [List.map_append, ← List.append_assoc, List.map_singleton]
    exact List.perm_append_singleton _ _
  among := fun _ member => nomatch member
  opened := rfl
  fresh := fun _ member => Option.mem_some.mp member ▸ fresh
  created := rfl
  active := by
    intro active
    change s.active + 1 = (s.loans ++ [_]).length
    rw [List.length_append, List.length_singleton, active]
  counter := fun why _ => by cases why <;> rfl

/-- A new connection becomes idle. -/
theorem putWarm {connection : Nat} (fresh : connection ∉ s.opened) :
    Passage s ((s.noteOpened connection).putWarm connection) (some connection) [] where
  stock := by
    change ((s.idle ++ [_]).map Idle.connection ++ s.loans.map Loan.connection).Perm
      (connection :: (s.idle.map Idle.connection ++ s.loans.map Loan.connection))
    rw [List.map_append, List.map_singleton, List.append_assoc]
    exact List.perm_middle
  among := fun _ member => nomatch member
  opened := rfl
  fresh := fun _ member => Option.mem_some.mp member ▸ fresh
  created := rfl
  active := id
  counter := fun why _ => by cases why <;> rfl

/-- A connection that comes back becomes idle. -/
theorem keep {loan : Loan} (lent : loan ∈ s.loans) (idleSince : Nat) :
    Passage s
      { s with
        loans := s.loans.erase loan
        active := s.active - 1
        idle := s.idle ++ [⟨loan.connection, loan.createdAt, idleSince⟩] } none [] where
  stock := by
    change ((s.idle ++ [_]).map Idle.connection ++ (s.loans.erase loan).map Loan.connection).Perm
      (s.idle.map Idle.connection ++ s.loans.map Loan.connection)
    rw [List.map_append, List.map_singleton, List.append_assoc]
    exact ((List.perm_cons_erase lent).map Loan.connection).symm.append_left _
  among := fun _ member => nomatch member
  opened := rfl
  fresh := fun _ member => nomatch member
  created := rfl
  active := by
    intro active
    change s.active - 1 = (s.loans.erase loan).length
    rw [List.length_erase_of_mem lent, active]
  counter := fun why _ => by cases why <;> rfl

/-- A connection that comes back goes, and perhaps a count goes up. -/
theorem goBack {loan : Loan} (lent : loan ∈ s.loans) (why : Exit) {pastLifetime overIdleCap : Nat}
    (lifetime : pastLifetime = s.pastLifetime + tally .pastLifetime [(loan.connection, why)])
    (cap : overIdleCap = s.overIdleCap + tally .overIdleCap [(loan.connection, why)])
    (back : why ≠ .pastIdleTimeout) :
    Passage s
      { s with loans := s.loans.erase loan, active := s.active - 1, pastLifetime, overIdleCap } none
      [(loan.connection, why)] where
  stock := by
    change (loan.connection :: (s.idle.map Idle.connection ++
      (s.loans.erase loan).map Loan.connection)).Perm
        (s.idle.map Idle.connection ++ s.loans.map Loan.connection)
    refine List.perm_middle.symm.trans (List.Perm.append_left _ ?_)
    exact ((List.perm_cons_erase lent).map Loan.connection).symm
  among := by
    intro exit member
    rw [List.mem_singleton.mp member]
    exact List.mem_append_right _ (List.mem_map_of_mem lent)
  opened := rfl
  fresh := fun _ member => nomatch member
  created := rfl
  active := by
    intro active
    change s.active - 1 = (s.loans.erase loan).length
    rw [List.length_erase_of_mem lent, active]
  counter := by
    intro other counted
    cases other with
    | overIdleCap => exact cap
    | pastLifetime => exact lifetime
    | pastIdleTimeout =>
      change s.pastIdleTimeout = s.pastIdleTimeout + _
      simp [tally, back]
    | _ => contradiction

/-- The first idle connection goes, and perhaps a count goes up. -/
theorem pop {entry : Idle} {idle : List Idle} (first : s.idle = entry :: idle) (why : Exit)
    {pastLifetime pastIdleTimeout : Nat}
    (lifetime : pastLifetime = s.pastLifetime + tally .pastLifetime [(entry.connection, why)])
    (idleTimeout : pastIdleTimeout =
      s.pastIdleTimeout + tally .pastIdleTimeout [(entry.connection, why)])
    (offered : why ≠ .overIdleCap) :
    Passage s { s with idle, pastLifetime, pastIdleTimeout } none [(entry.connection, why)] where
  stock := by
    change (entry.connection :: (idle.map Idle.connection ++ s.loans.map Loan.connection)).Perm
      (s.idle.map Idle.connection ++ s.loans.map Loan.connection)
    rw [first]
    exact List.Perm.refl _
  among := by
    intro exit member
    rw [List.mem_singleton.mp member, State.stock, first]
    exact List.mem_cons_self
  opened := rfl
  fresh := fun _ member => nomatch member
  created := rfl
  active := id
  counter := by
    intro other counted
    cases other with
    | overIdleCap =>
      change s.overIdleCap = s.overIdleCap + _
      simp [tally, offered]
    | pastLifetime => exact lifetime
    | pastIdleTimeout => exact idleTimeout
    | _ => contradiction

/-- All idle connections go. -/
theorem drain (s : State) : Passage s { s with idle := [] } none
    (s.idle.map fun entry => (entry.connection, Exit.drained)) where
  stock := by
    rw [List.map_map]
    exact List.Perm.refl _
  among := by
    intro exit member
    obtain ⟨entry, among, rfl⟩ := List.mem_map.mp member
    exact List.mem_append_left _ (List.mem_map_of_mem among)
  opened := rfl
  fresh := fun _ member => nomatch member
  created := rfl
  active := id
  counter := by
    intro why counted
    have none : tally why (s.idle.map fun entry => (entry.connection, Exit.drained)) = 0 := by
      rw [tally, List.countP_map, List.countP_eq_zero]
      cases why <;> simp [Exit.isCounted] at counted ⊢
    rw [none]
    rfl

end Passage

/-! ### The reasons -/

/-- A step with the connections that it takes away, for reasons that the state before it shows. -/
def Accounts (s : State) (event : Event) (t : State) : Prop :=
  ∃ added gone, Passage s t added gone ∧ ∀ exit ∈ gone, s.exit? exit.1 event = some exit.2

/-- The event gives a borrower its turn, so that connections go only because they may not be lent. -/
def Offers (s : State) (event : Event) : Prop := ∀ connection, s.exit? connection event =
  (s.idle.find? fun entry => entry.connection = connection).bind s.offerExit?

namespace Accounts

variable {s t : State} {event : Event}

theorem ofSteady (steady : Steady s t) : Accounts s event t :=
  ⟨none, [], steady.passage, fun _ member => nomatch member⟩

theorem ofPassage {added : Option Nat} (passage : Passage s t added []) : Accounts s event t :=
  ⟨added, [], passage, fun _ member => nomatch member⟩

/-- The first idle connection goes because it may not be lent. -/
theorem ofOffer {entry : Idle} {idle : List Idle} (why : Exit) (offers : Offers s event)
    (first : s.idle = entry :: idle) (reason : s.offerExit? entry = some why)
    (passage : Passage s t none [(entry.connection, why)]) : Accounts s event t := by
  refine ⟨none, _, passage, ?_⟩
  intro exit member
  rw [List.mem_singleton.mp member, offers, first, List.find?_cons_of_pos (by simp),
    Option.bind_some, reason]

/-- A borrower that has its turn gets the first idle connection, unless that goes, or a new one. -/
theorem examine (ownCheck : s.ownCheck = false) (offers : Offers s event) (call : Nat) :
    Accounts s event (s.examine call) := by
  have setGet (u : State) (get : Get) : Steady u (u.setGet call get) := ⟨rfl, rfl, rfl, rfl, rfl, rfl⟩
  have offer := examine_offer s call
  generalize s.examine call = t at offer ⊢
  cases offer with
  | opening => exact ofSteady (setGet s .opening)
  | tooOld first old =>
    refine ofOffer .pastLifetime offers first (by simp [State.offerExit?, old]) ?_
    exact (setGet _ _).after (.pop first .pastLifetime rfl rfl (by decide))
  | overdue first young late =>
    refine ofOffer .pastIdleTimeout offers first (by simp [State.offerExit?, young, late]) ?_
    exact (setGet _ _).after (.pop first .pastIdleTimeout rfl rfl (by decide))
  | checked _ _ _ own => rw [ownCheck] at own; contradiction
  | foundClosed first young early _ closed =>
    refine ofOffer .foundClosed offers first (by simp [State.offerExit?, young, early, closed]) ?_
    exact (setGet _ _).after (.pop first .foundClosed rfl rfl (by decide))
  | lent first => exact ofPassage (.lend first call _)

/-- The accounts of a step that begins where something has changed that they do not depend on. -/
theorem before {u : State} (steady : Steady s t) (same : ∀ connection,
    t.exit? connection event = s.exit? connection event) (accounts : Accounts t event u) :
    Accounts s event u := by
  obtain ⟨added, gone, passage, reasons⟩ := accounts
  refine ⟨added, gone, steady.before passage, ?_⟩
  intro exit member
  rw [← same, reasons exit member]

theorem startGet (ownCheck : s.ownCheck = false) (call : Nat) :
    Accounts s (.get call) (s.startGet call) := by
  unfold State.startGet
  dsimp only
  split
  · exact ofSteady ⟨rfl, rfl, rfl, rfl, rfl, rfl⟩
  split
  · exact ofSteady ⟨rfl, rfl, rfl, rfl, rfl, rfl⟩
  · refine before ?_ ?_ (examine ?_ ?_ call)
    · exact ⟨rfl, rfl, rfl, rfl, rfl, rfl⟩
    · exact fun _ => rfl
    · exact ownCheck
    · exact fun _ => rfl

/-- A connection that comes back becomes idle, unless it goes. -/
theorem giveBack {connection : Nat} {loan : Loan} (outside : Bool)
    (found : (s.loans.find? fun loan => loan.connection = connection) = some loan) :
    Accounts s (.giveBack connection outside)
      ({ s with loans := s.loans.erase loan, active := s.active - 1 }.takeBack loan outside).release := by
  have lent := List.mem_of_find?_eq_some found
  have same : loan.connection = connection := by simpa using List.find?_some found
  have goes (why : Exit) {u : State} (reason : s.returnExit? loan = some why)
      (passage : Passage s u none [(loan.connection, why)]) :
      Accounts s (.giveBack connection outside) u := by
    refine ⟨none, _, passage, ?_⟩
    intro exit member
    rw [List.mem_singleton.mp member, State.exit?, same, found, Option.bind_some, reason]
  unfold State.takeBack
  split
  · next closed =>
    change s.isClosed loan.connection = true at closed
    refine goes .backClosed (by simp [State.returnExit?, closed]) ?_
    exact (Steady.release _).after (.goBack lent .backClosed rfl rfl (by decide))
  split
  · next opened late =>
    change ¬s.isClosed loan.connection = true at opened
    change s.shut = true at late
    refine goes .backLate (by simp [State.returnExit?, opened, late]) ?_
    exact ((Steady.retire _ _ _).trans (Steady.release _)).after
      (.goBack lent .backLate rfl rfl (by decide))
  split
  · next opened running old =>
    change ¬s.isClosed loan.connection = true at opened
    change ¬s.shut = true at running
    change s.outlived loan.createdAt = true at old
    refine goes .pastLifetime (by simp [State.returnExit?, opened, running, old]) ?_
    exact ((Steady.retire _ _ _).trans (Steady.release _)).after
      (.goBack lent .pastLifetime rfl rfl (by decide))
  split
  · next opened running young full =>
    change ¬s.isClosed loan.connection = true at opened
    change ¬s.shut = true at running
    change ¬s.outlived loan.createdAt = true at young
    change s.config.maxIdle ≤ s.idle.length at full
    refine goes .overIdleCap (by simp [State.returnExit?, opened, running, young, full]) ?_
    exact ((Steady.retire _ _ _).trans (Steady.release _)).after
      (.goBack lent .overIdleCap rfl rfl (by decide))
  · exact ofPassage ((Steady.release _).after (.keep lent s.now))

/-- All idle connections go when a closing call begins. -/
theorem drain (call : Nat) (wholePool : Bool)
    (taken : ∀ connection, s.exit? connection event = some .drained) :
    Accounts s event (s.drain call wholePool) := by
  refine ⟨none, _, (Steady.drainNext _ _ _ _).after (.drain s), ?_⟩
  intro exit member
  obtain ⟨entry, _, rfl⟩ := List.mem_map.mp member
  exact taken entry.connection

end Accounts

/-- Closing the connection that a borrower has in hand closes no idle one. -/
theorem exit?_noteClosed {s : State} (custody : Custody s) {call connection : Nat}
    (found : s.get? call = some (.discarding connection)) (closed : Bool) (other : Nat) :
    (s.noteClosed connection closed).exit? other (.discarded call closed) =
      s.exit? other (.discarded call closed) := by
  have same (entry : Idle) (member : entry ∈ s.idle) :
      (s.noteClosed connection closed).offerExit? entry = s.offerExit? entry := by
    have differ : entry.connection ≠ connection :=
      custody.idle_ne_examined member (mem_of_lookup found) rfl
    rw [noteClosed_eq]
    unfold State.offerExit? State.isClosed
    cases closed with
    | false => rfl
    | true => simp [differ, State.outlived, State.overdue]
  have idle : (s.noteClosed connection closed).idle = s.idle := by rw [noteClosed_eq]
  simp only [State.exit?, idle]
  cases first : s.idle.find? fun entry => entry.connection = other with
  | none => rfl
  | some entry => exact same entry (List.mem_of_find?_eq_some first)

end SqlProbe.Pool
