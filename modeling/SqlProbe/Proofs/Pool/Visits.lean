import SqlProbe.Proofs.Pool.Borrowing
import SqlProbe.Proofs.Pool.Driving

/-!
# Visits to borrowers

A script visits its borrowers again and again. At each visit a borrower goes on until it waits for
something that has begun and will end, or has an outcome. What this adds to the load of the run is
paid for by how much nearer the borrower is to its end, and it leaves all other borrowers as they
were, unless one of them has its turn; then the script goes on once more.
-/

namespace SqlProbe.Pool

variable {σ α β : Type}

/-! ### What the driver can be relied on for -/

/-- The driver opens new connections only, and it closes no others than those that it is told to
close, whatever it knows of connections that have been opened and closed. -/
structure Faithful (driver : Driver σ) (target : SqlProbe.Config)
    (Knows : σ → List Nat → List Nat → Prop) : Prop where
  connect : Timely (driver.connect target)
  close : ∀ connection, Timely (driver.close connection)
  connected : ∀ server opened closed connection, Knows server opened closed →
    ((driver.connect target).finish server).1 = .ok connection → connection ∉ opened ∧
      Knows ((driver.connect target).finish server).2 (connection :: opened) closed
  refused : ∀ server opened closed cause, Knows server opened closed →
    ((driver.connect target).finish server).1 = .error cause →
      Knows ((driver.connect target).finish server).2 opened closed
  closed : ∀ server opened closed connection, Knows server opened closed → connection ∈ opened →
    Knows ((driver.close connection).finish server).2 opened
      (if driver.isClosed connection ((driver.close connection).finish server).2 then
        connection :: closed
      else closed)

/-- The driver closes whatever it is told to close. -/
def Thorough (driver : Driver σ) (Knows : σ → List Nat → List Nat → Prop) : Prop :=
  ∀ server opened closed connection, Knows server opened closed → connection ∈ opened →
    driver.isClosed connection ((driver.close connection).finish server).2 = true

theorem Faithful.closes {driver : Driver σ} {target : SqlProbe.Config}
    {Knows : σ → List Nat → List Nat → Prop} (faithful : Faithful driver target Knows)
    (thorough : Thorough driver Knows) {server : σ} {opened closed : List Nat}
    (knows : Knows server opened closed) {connection : Nat} (among : connection ∈ opened) :
    driver.isClosed connection ((driver.close connection).finish server).2 = true ∧
      Knows ((driver.close connection).finish server).2 opened (connection :: closed) := by
  have gone := thorough server opened closed connection knows among
  have next := faithful.closed server opened closed connection knows among
  rw [if_pos gone] at next
  exact ⟨gone, next⟩

/-- What may still be added to the load for a borrower that waits. -/
def Get.cost : Get → Nat
  | .opening => 10
  | _ => 14

namespace Run

/-! ### Steps of the script -/

/-- A run of a pool that only lends, in which calls have numbers that no later call gets. -/
structure Orderly (r : Run σ) : Prop extends Scheduled r where
  lending : Lending r.pool
  fresh : ∀ call, r.nextCall ≤ call → r.pool.get? call = none ∧ r.pool.result? call = none

/-- What goes on for the borrowers with these calls, and ends no waits but these, leaves all others
alone, except that they may have their turn, and then the script can go on. -/
structure Goes (calls : List Nat) (mine : Wait → Prop) (r t : Run σ) : Prop where
  orderly : Orderly t
  same : t.driver = r.driver ∧ t.target = r.target
  later : r.nextCall ≤ t.nextCall
  pool : Beside calls r.pool t.pool
  waits : ∀ wait, ¬mine wait → r.waitsFor wait = true → t.waitsFor wait = true
  begun : ∀ wait, ¬mine wait → r.Begun wait → t.Begun wait
  script : .script ∈ r.ready → .script ∈ t.ready
  turn : ∀ call, call ∉ calls → r.pool.get? call = some .queued →
    t.pool.get? call = some .granted → .script ∈ t.ready
  offerable : Offerable r.pool → Offerable t.pool
  accounted : Accounted r.pool [] → Accounted t.pool []

namespace Goes

variable {calls more : List Nat} {mine others : Wait → Prop} {r t u : Run σ}

theorem trans (first : Goes calls mine r t) (second : Goes calls mine t u) : Goes calls mine r u where
  orderly := second.orderly
  same := ⟨second.same.1.trans first.same.1, second.same.2.trans first.same.2⟩
  later := Nat.le_trans first.later second.later
  pool := first.pool.trans second.pool
  waits := fun wait other waiting => second.waits wait other (first.waits wait other waiting)
  begun := fun wait other begun => second.begun wait other (first.begun wait other begun)
  script := fun member => second.script (first.script member)
  turn := by
    intro call other queued granted
    rcases first.pool.get? call other with same | ⟨_, now⟩
    · exact second.turn call other (same.trans queued) granted
    · exact second.script (first.turn call other queued now)
  offerable := fun offerable => second.offerable (first.offerable offerable)
  accounted := fun accounted => second.accounted (first.accounted accounted)

theorem mono (goes : Goes calls mine r t) (among : calls ⊆ more)
    (of : ∀ wait, mine wait → others wait) : Goes more others r t where
  orderly := goes.orderly
  same := goes.same
  later := goes.later
  pool := goes.pool.mono among
  waits := fun wait other => goes.waits wait fun member => other (of wait member)
  begun := fun wait other => goes.begun wait fun member => other (of wait member)
  script := goes.script
  turn := fun call other => goes.turn call fun member => other (among member)
  offerable := goes.offerable
  accounted := goes.accounted

end Goes

section Steps

variable {r : Run σ} {calls : List Nat} {wait : Wait} {event : Event}

theorem mem_woken_get {s t : State} {call : Nat} (running : s.shut = false)
    (queued : s.get? call = some .queued) (granted : t.get? call = some .granted) :
    .get call ∈ woken s t := by
  obtain ⟨before, after, eq, _⟩ := List.lookup_eq_some_iff.mp granted
  refine List.mem_append_left _ (List.mem_append_right _ ?_)
  refine List.mem_map.mpr ⟨(call, .granted), List.mem_filter.mpr ⟨?_, ?_⟩, rfl⟩
  · rw [eq]
    exact List.mem_append_right _ List.mem_cons_self
  · rw [queued]
    simp [hasTurn, running]

/-- A step of the pool in which at most these connections begin to be closed. -/
theorem Orderly.step (orderly : Orderly r) (lends : Lends r.pool event)
    (beside : Beside calls r.pool (r.pool.step event)) (known : ∀ call ∈ calls, call < r.nextCall)
    {new : List Nat} (grown : (r.pool.step event).closings = r.pool.closings ++ new)
    (offerable : Offerable r.pool → Offerable (r.pool.step event)) :
    Goes calls (fun _ => False) r (r.step event) ∧ (r.step event).load ≤ r.load + 1 + 5 * new.length ∧
      (r.step event).pool = r.pool.step event ∧ (r.step event).server = r.server := by
  have lending := orderly.lending.step lends
  obtain ⟨scheduled, load⟩ := orderly.toScheduled.step grown lending.once
  obtain ⟨more, wakes, eq⟩ := exists_step orderly.background event
  rw [eq] at scheduled load ⊢
  refine ⟨⟨⟨scheduled, lending, ?_⟩, ⟨rfl, rfl⟩, Nat.le_refl r.nextCall, beside, fun _ _ => id,
    fun _ _ => id, ?_, ?_, offerable, orderly.lending.accounted lends⟩, load, rfl, rfl⟩
  · intro call unused
    obtain ⟨unasked, untold⟩ := orderly.fresh call unused
    have other : call ∉ calls := fun member => absurd (known call member) (Nat.not_lt.mpr unused)
    refine ⟨?_, (beside.result? call other).trans untold⟩
    rcases beside.get? call other with same | ⟨queued, _⟩
    · exact same.trans unasked
    · rw [unasked] at queued
      contradiction
  · exact List.mem_append_left _
  · intro call _ queued granted
    exact wakes.all _ (mem_woken_get orderly.lending.shut queued granted)

/-- A step of a borrower. -/
theorem Orderly.serve (orderly : Orderly r) {call : Nat} (known : call < r.nextCall)
    (lends : Lends r.pool event) (beside : Beside [call] r.pool (r.pool.step event))
    (serves : Serves r.pool (r.pool.step event)) :
    Goes [call] (fun _ => False) r (r.step event) ∧ (r.step event).load ≤ r.load + 1 ∧
      (r.step event).pool = r.pool.step event ∧ (r.step event).server = r.server := by
  have grown : (r.pool.step event).closings = r.pool.closings ++ [] := by
    rw [serves.closings, List.append_nil]
  exact orderly.step lends beside (fun _ member => List.mem_singleton.mp member ▸ known) grown
    fun offerable => offerable.serves serves

theorem Orderly.forget (orderly : Orderly r) (waits : List Wait)
    (kept : ∀ connection, .closing connection ∉ waits) :
    Goes [] (· ∈ waits) r (r.forget waits) ∧ (r.forget waits).load ≤ r.load := by
  obtain ⟨scheduled, load⟩ := orderly.toScheduled.forget kept
  refine ⟨⟨⟨scheduled, orderly.lending, orderly.fresh⟩, ⟨rfl, rfl⟩, Nat.le_refl _, .same rfl rfl, ?_,
    ?_, id, ?_, id, id⟩, load⟩
  · intro wait other waiting
    rwa [waitsFor_forget other]
  · exact fun wait other begun => (begun_forget other).mpr begun
  · intro call _ queued granted
    exact absurd (queued.symm.trans granted) nofun

theorem Orderly.begin (orderly : Orderly r) (script : wait.task = .script) (due : Nat) :
    Goes [] (fun _ => False) r { r with timers := r.timers ++ [⟨wait, some due⟩] } ∧
      load { r with timers := r.timers ++ [⟨wait, some due⟩] } = r.load + 3 ∧
      waitsFor { r with timers := r.timers ++ [⟨wait, some due⟩] } wait = true := by
  obtain ⟨scheduled, load⟩ := orderly.toScheduled.begin script due
  have waits (other : Wait) (waiting : r.waitsFor other = true) :
      waitsFor { r with timers := r.timers ++ [⟨wait, some due⟩] } other = true := by
    obtain ⟨timer, member, same⟩ := waitsFor_iff.mp waiting
    exact waitsFor_iff.mpr ⟨timer, List.mem_append_left _ member, same⟩
  refine ⟨⟨⟨scheduled, orderly.lending, orderly.fresh⟩, ⟨rfl, rfl⟩, Nat.le_refl _, .same rfl rfl,
    fun other _ => waits other, ?_, id, ?_, id, id⟩, load, ?_⟩
  · exact fun other _ begun => begun.imp_left (waits other)
  · intro call _ queued granted
    exact absurd (queued.symm.trans granted) nofun
  · exact waitsFor_iff.mpr ⟨_, List.mem_append_right _ List.mem_cons_self, rfl⟩

/-- The server and the numbers for further calls may change. -/
theorem Orderly.aside (orderly : Orderly r) (server : σ) {nextCall : Nat} (later : r.nextCall ≤ nextCall)
    (calls : List Nat) (mine : Wait → Prop) : Goes calls mine r { r with server, nextCall } := by
  refine ⟨⟨orderly.toScheduled.same rfl orderly.due rfl rfl fun _ => rfl, orderly.lending, ?_⟩,
    ⟨rfl, rfl⟩, later, .same rfl rfl, fun _ _ => id, fun _ _ => id, id, ?_, id, id⟩
  · exact fun call unused => orderly.fresh call (Nat.le_trans later unused)
  · intro call _ queued granted
    exact absurd (queued.symm.trans granted) nofun

/-- Nothing goes on. -/
theorem Orderly.still (orderly : Orderly r) (calls : List Nat) (mine : Wait → Prop) :
    Goes calls mine r r :=
  orderly.aside r.server (Nat.le_refl _) calls mine

/-- A driver call has ended, and nobody waits for it any more. -/
theorem Orderly.ends (orderly : Orderly r) (script : wait.task = .script) (server : σ) :
    Goes [] (· = wait) r { r.forget [wait] with server } ∧
      load { r.forget [wait] with server } ≤ r.load := by
  have kept (connection : Nat) : .closing connection ∉ [wait] := by
    intro member
    rw [← List.mem_singleton.mp member] at script
    contradiction
  obtain ⟨forgets, less⟩ := orderly.forget [wait] kept
  refine ⟨?_, less⟩
  exact (forgets.mono (List.Subset.refl _) fun _ => List.mem_singleton.mp).trans
    (forgets.orderly.aside server (Nat.le_refl _) [] _)

end Steps

/-! ### Borrowers -/

/-- A run of a pool that only lends, with a driver that knows which connections have been opened and
closed. None is lost where the driver closes all that it is told to close. -/
structure Sound (Knows : σ → List Nat → List Nat → Prop) (r : Run σ) : Prop extends Orderly r where
  faithful : Faithful r.driver r.target Knows
  knows : Knows r.server r.pool.opened r.pool.closed
  accounted : Thorough r.driver Knows → Accounted r.pool []

variable {Knows : σ → List Nat → List Nat → Prop}

theorem Goes.sound {calls : List Nat} {mine : Wait → Prop} {r t : Run σ} (goes : Goes calls mine r t)
    (sound : Sound Knows r) (knows : Knows t.server t.pool.opened t.pool.closed) : Sound Knows t := by
  refine ⟨goes.orderly, ?_, knows, ?_⟩
  · rw [goes.same.1, goes.same.2]
    exact sound.faithful
  · rw [goes.same.1]
    exact fun thorough => goes.accounted (sound.accounted thorough)

/-- What a wait still adds to the load when it begins. -/
def owed (r : Run σ) (wait : Wait) : Nat := if r.Begun wait then 0 else 3

theorem owed_le (r : Run σ) (wait : Wait) : r.owed wait ≤ 3 := by
  unfold owed
  split <;> omega

theorem owed_le_owed {r t : Run σ} {wait : Wait} (begun : r.Begun wait → t.Begun wait) :
    t.owed wait ≤ r.owed wait := by
  unfold owed
  split
  · exact Nat.zero_le _
  · next unbegun => exact Nat.le_of_eq (if_neg fun before => unbegun (begun before)).symm

/-- How a borrower fares that can go on: it waits for something that will end, in the queue only where
it may, or it has an outcome. What its worker has to do then is within the budget. -/
inductive Fares (t : Run σ) (call : Nat) (calls connections : List Nat) (queues : Prop)
    (budget : Nat) : Prop
  | waits {get : Get} (found : t.pool.get? call = some get)
      (rests : get = .queued ∧ queues ∨ get = .opening ∧ t.waitsFor (.get call) = true)
      (shares : Shares t.pool (call :: calls) connections) (load : t.load + get.cost ≤ budget)
  | lent {connection : Nat} (result : t.pool.result? call = some (.ok connection))
      (shares : Shares t.pool calls (connection :: connections)) (load : t.load + 9 ≤ budget)
  | failed {cause : Error} (result : t.pool.result? call = some (.error cause))
      (shares : Shares t.pool calls connections) (load : t.load ≤ budget)

/-- The script has gone on with a borrower. -/
structure Pursues (Knows : σ → List Nat → List Nat → Prop) (mine : Wait → Prop) (r t : Run σ)
    (call : Nat) (calls connections : List Nat) (queues : Prop) (budget : Nat) : Prop where
  goes : Goes [call] mine r t
  knows : Knows t.server t.pool.opened t.pool.closed
  fares : Fares t call calls connections queues budget

section Borrowers

variable {r t : Run σ} {call budget : Nat} {calls connections : List Nat} {mine : Wait → Prop}
  {queues : Prop}

theorem Orderly.known (orderly : Orderly r) {get : Get} (found : r.pool.get? call = some get) :
    call < r.nextCall := by
  refine Nat.lt_of_not_le fun unused => ?_
  rw [(orderly.fresh call unused).1] at found
  contradiction

/-- A borrower that waits for a new connection gets it. -/
theorem Orderly.opens (orderly : Orderly r) (waits : r.pool.get? call = some .opening)
    (shares : Shares r.pool (call :: calls) connections) {connection : Nat}
    (fresh : connection ∉ r.pool.opened)
    (knows : Knows r.server (connection :: r.pool.opened) r.pool.closed) :
    Pursues Knows (fun _ => False) r (r.step (.opened call connection)) call calls connections
      False (r.load + 10) := by
  obtain ⟨result, lent, beside, serves⟩ := stands_opened orderly.lending waits fresh shares
  have grown : (r.pool.step (.opened call connection)).closings = r.pool.closings ++ [] := by
    rw [serves.closings, List.append_nil]
    rfl
  have offerable (offerable : Offerable r.pool) :
      Offerable (r.pool.step (.opened call connection)) :=
    Offerable.serves (s := r.pool.noteOpened connection) offerable serves
  have lends : Lends r.pool (.opened call connection) := trivial
  obtain ⟨goes, load, pool, server⟩ := orderly.step lends beside
    (fun _ member => List.mem_singleton.mp member ▸ orderly.known waits) grown offerable
  refine ⟨goes, ?_, .lent (pool ▸ result) (pool ▸ lent) ?_⟩
  · rw [pool, server, serves.opened, serves.closed]
    exact knows
  · rw [List.length_nil] at load
    omega

/-- A borrower is let down. -/
theorem Orderly.letsDown (orderly : Orderly r) {get : Get} (found : r.pool.get? call = some get)
    (shares : Shares r.pool (call :: calls) connections) {event : Event} {cause : Error}
    (lends : Lends r.pool event) (step : r.pool.step event = r.pool.fail call cause)
    (knows : Knows r.server r.pool.opened r.pool.closed) :
    Pursues Knows (fun _ => False) r (r.step event) call calls connections False (r.load + 1) := by
  obtain ⟨result, left, beside, serves⟩ := stands_fail orderly.lending found cause shares
  rw [← step] at result left beside serves
  obtain ⟨goes, load, pool, server⟩ := orderly.serve (orderly.known found) lends beside serves
  refine ⟨goes, ?_, .failed (pool ▸ result) (pool ▸ left) load⟩
  rw [pool, server, serves.opened, serves.closed]
  exact knows

theorem Pursues.within (pursues : Pursues Knows mine r t call calls connections queues budget)
    {also : Prop} (may : queues → also) {more : Nat} (enough : budget ≤ more) :
    Pursues Knows mine r t call calls connections also more := by
  refine ⟨pursues.goes, pursues.knows, ?_⟩
  cases pursues.fares with
  | waits found rests shares load =>
    exact .waits found (rests.imp_left (And.imp_right may)) shares (Nat.le_trans load enough)
  | lent result shares load => exact .lent result shares (Nat.le_trans load enough)
  | failed result shares load => exact .failed result shares (Nat.le_trans load enough)

theorem Pursues.after {s : Run σ} {others : Wait → Prop}
    (pursues : Pursues Knows others s t call calls connections queues budget) {own : List Nat}
    (goes : Goes own mine r s) (among : own ⊆ [call]) (of : ∀ wait, others wait → mine wait) :
    Pursues Knows mine r t call calls connections queues budget :=
  ⟨(goes.mono among fun _ => id).trans (pursues.goes.mono (List.Subset.refl _) of), pursues.knows,
    pursues.fares⟩

/-- A borrower that waits for a new connection begins to wait, waits on, or gets an outcome. -/
theorem Sound.connects (sound : Sound Knows r) (waits : r.pool.get? call = some .opening)
    (shares : Shares r.pool (call :: calls) connections) (fuel : Nat) :
    Pursues Knows (· = .get call) r (pursue (fuel + 1) call r) call calls connections False
      (r.load + 10 + r.owed (.get call)) := by
  have awaited := awaits r (.get call) sound.faithful.connect
  rw [pursue, waits]
  dsimp only
  generalize r.await (.get call) (r.driver.connect r.target) = outcome at awaited ⊢
  cases awaited with
  | waiting since =>
    refine ⟨?_, sound.knows, .waits waits (.inr ⟨rfl, since⟩) shares (Nat.le_add_right _ _)⟩
    exact sound.still _ _
  | begins due new =>
    obtain ⟨goes, more, since⟩ := sound.begin (show (Wait.get call).task = .script from rfl) due
    have owes : r.owed (.get call) = 3 := if_neg new
    have enough : load { r with timers := r.timers ++ [⟨.get call, some due⟩] } + 10 ≤
        r.load + 10 + r.owed (.get call) := by omega
    exact ⟨goes.mono nofun nofun, sound.knows, .waits waits (.inr ⟨rfl, since⟩) shares enough⟩
  | ends =>
    obtain ⟨passes, less⟩ := sound.ends (show (Wait.get call).task = .script from rfl)
      ((r.driver.connect r.target).finish r.server).2
    cases connects : ((r.driver.connect r.target).finish r.server).1 with
    | ok connection =>
      obtain ⟨fresh, knows⟩ :=
        sound.faithful.connected _ _ _ connection sound.knows connects
      refine ((passes.orderly.opens waits shares fresh knows).after passes nofun nofun).within id ?_
      exact Nat.le_trans (Nat.add_le_add_right less 10) (Nat.le_add_right _ _)
    | error cause =>
      have knows := sound.faithful.refused _ _ _ cause sound.knows connects
      have lends : Lends r.pool (.refused call cause) := trivial
      refine ((passes.orderly.letsDown waits shares lends (step_refused waits cause) knows).after
        passes nofun nofun).within id ?_
      exact Nat.le_trans (Nat.add_le_add_right less 1) (by omega)

/-- A borrower goes on until it waits for something that will end, or has an outcome. -/
theorem Sound.pursues (sound : Sound Knows r) {get : Get} (found : r.pool.get? call = some get)
    (turn : get = .granted → Offerable r.pool) (shares : Shares r.pool (call :: calls) connections)
    (fuel : Nat) : Pursues Knows (· = .get call) r (pursue (fuel + 2) call r) call calls connections
      (get = .queued) (r.load + get.cost + if get = .opening then r.owed (.get call) else 0) := by
  have bare := (sound.lending.waiting.of_get? found).bare
  cases get with
  | queued =>
    have running := sound.lending.shut
    rw [pursue, found]
    dsimp only
    rw [if_neg (by simp [running])]
    refine ⟨?_, sound.knows, .waits found (.inl ⟨rfl, rfl⟩) shares (Nat.le_refl _)⟩
    exact sound.still _ _
  | granted =>
    have offerable := turn rfl
    obtain ⟨stands, beside, serves⟩ := stands_resume sound.lending offerable found shares
    have lends : Lends r.pool (.resume call) := offerable
    obtain ⟨goes, load, pool, server⟩ := sound.serve (sound.known found) lends beside serves
    have knows : Knows (r.step (.resume call)).server (r.step (.resume call)).pool.opened
        (r.step (.resume call)).pool.closed := by
      rw [pool, server, serves.opened, serves.closed]
      exact sound.knows
    rw [pursue, found]
    dsimp only
    rw [← pool] at stands
    have apart := shares.not_mem sound.lending.balance.distinct
    cases stands with
    | waits opening shares' =>
      have connects := (goes.sound sound knows).connects opening shares' fuel
      refine (connects.after (goes.mono (List.Subset.refl _) nofun) (List.Subset.refl _)
        fun _ => id).within False.elim ?_
      have most := owed_le (r.step (.resume call)) (.get call)
      simp only [Get.cost, reduceCtorEq, if_false]
      omega
    | lent result shares' =>
      rw [pursue, shares'.get?_eq_none apart]
      dsimp only
      refine ⟨goes.mono (List.Subset.refl _) nofun, knows, .lent result shares' ?_⟩
      simp only [Get.cost, reduceCtorEq, if_false]
      omega
    | failed result shares' =>
      rw [pursue, shares'.get?_eq_none apart]
      dsimp only
      refine ⟨goes.mono (List.Subset.refl _) nofun, knows, .failed result shares' ?_⟩
      simp only [Get.cost, reduceCtorEq, if_false]
      omega
  | validating => contradiction
  | discarding => contradiction
  | opening =>
    rw [if_pos rfl]
    exact (sound.connects found shares (fuel + 1)).within False.elim (Nat.le_refl _)

/-- The waits of a borrower. -/
def Borrower (call : Nat) (wait : Wait) : Prop := wait = .get call ∨ wait = .deadline call

/-- A borrower that has an outcome waits for nothing any more. -/
theorem Pursues.forgets (pursues : Pursues Knows mine r t call calls connections queues budget)
    (of : ∀ wait, mine wait → Borrower call wait) (ended : t.pool.get? call = none) :
    Pursues Knows (Borrower call) r (t.forget [.get call, .deadline call]) call calls connections
      queues budget := by
  obtain ⟨forgets, less⟩ := pursues.goes.orderly.forget [.get call, .deadline call] (by simp)
  refine ⟨(pursues.goes.mono (List.Subset.refl _) of).trans (forgets.mono nofun ?_), pursues.knows, ?_⟩
  · intro wait member
    simpa [Borrower] using member
  · cases pursues.fares with
    | waits found => rw [ended] at found; contradiction
    | lent result shares load => exact .lent result shares (by omega)
    | failed result shares load => exact .failed result shares (by omega)

/-- A borrower goes on until it waits, for no longer than it has patience, or has an outcome. -/
theorem Sound.borrows (sound : Sound Knows r) {get : Get} (found : r.pool.get? call = some get)
    (turn : get = .granted → Offerable r.pool) (shares : Shares r.pool (call :: calls) connections) :
    Pursues Knows (Borrower call) r (r.borrow call) call calls connections (get = .queued)
        (r.load + get.cost + (if get = .opening then r.owed (.get call) else 0) +
          r.owed (.deadline call)) ∧
      ∀ get, (r.borrow call).pool.get? call = some get →
        (r.borrow call).waitsFor (.deadline call) = true := by
  have pursues := sound.pursues found turn shares (r.pool.idle.length + 1)
  have apart := shares.not_mem sound.lending.balance.distinct
  have own : ∀ wait, wait = .get call → Borrower call wait := fun _ => .inl
  unfold borrow
  dsimp only
  generalize pursue (r.pool.idle.length + 3) call r = t at pursues ⊢
  have outcome (ended : t.pool.get? call = none) :=
    (pursues.forgets own ended).within id (Nat.le_add_right _ (r.owed (.deadline call)))
  cases pursues.fares with
  | lent result shares' load =>
    have ended := shares'.get?_eq_none apart
    rw [ended, Option.isNone_none, if_pos rfl]
    refine ⟨outcome ended, fun get found => ?_⟩
    exact absurd (ended.symm.trans found) nofun
  | failed result shares' load =>
    have ended := shares'.get?_eq_none apart
    rw [ended, Option.isNone_none, if_pos rfl]
    refine ⟨outcome ended, fun get found => ?_⟩
    exact absurd (ended.symm.trans found) nofun
  | @waits waiting found' rests shares' enough =>
    have orderly := pursues.goes.orderly
    have least : 10 ≤ waiting.cost := by cases waiting <;> simp [Get.cost]
    rw [found', Option.isNone_some, if_neg Bool.false_ne_true]
    split
    · have step := step_expire orderly.lending found' (rests.imp And.left And.left)
      have lends : Lends t.pool (.expire call) := trivial
      have down := (orderly.letsDown found' shares' lends step pursues.knows).after pursues.goes
        (List.Subset.refl _) nofun
      have ended : (t.step (.expire call)).pool.get? call = none := by
        rw [pool_step orderly.background, step]
        exact (stands_fail orderly.lending found' _ shares').2.1.get?_eq_none apart
      refine ⟨(down.forgets own ended).within False.elim (by omega), fun get found => ?_⟩
      exact absurd (ended.symm.trans found) nofun
    split
    · next since =>
      exact ⟨⟨pursues.goes.mono (List.Subset.refl _) own, pursues.knows,
        .waits found' rests shares' (Nat.le_trans enough (Nat.le_add_right _ _))⟩, fun _ _ => since⟩
    · next patient unwaited =>
      have new : ¬r.Begun (.deadline call) := by
        intro begun
        rcases pursues.goes.begun (.deadline call) nofun begun with waiting | ended
        · exact unwaited waiting
        · simp [ended] at patient
      obtain ⟨goes, more, since⟩ := orderly.begin
        (show (Wait.deadline call).task = .script from rfl) (t.pool.now + t.pool.config.acquireTimeout)
      refine ⟨⟨(pursues.goes.mono (List.Subset.refl _) own).trans (goes.mono nofun nofun),
        pursues.knows, .waits found' ?_ shares' ?_⟩, fun _ _ => since⟩
      · exact rests.imp_right fun ⟨opening, waits⟩ => ⟨opening, goes.waits _ nofun waits⟩
      · have all : r.owed (.deadline call) = 3 := if_neg new
        rw [all]
        exact Nat.le_trans (Nat.le_of_eq (congrArg (· + waiting.cost) more)) (by omega)

theorem borrow_of_none (ended : r.pool.get? call = none) :
    r.borrow call = r.forget [.get call, .deadline call] := by
  have still : pursue (r.pool.idle.length + 3) call r = r := by rw [pursue, ended]
  unfold borrow
  rw [still]
  dsimp only
  rw [ended, Option.isNone_none, if_pos rfl]

/-- A new borrower waits, for no longer than it has patience, or has an outcome. -/
theorem Sound.arrives (sound : Sound Knows r) (offerable : Offerable r.pool)
    (shares : Shares r.pool calls connections) :
    Pursues Knows (Borrower r.nextCall) r (arrive { r with nextCall := r.nextCall + 1 } r.nextCall)
        r.nextCall calls connections True (r.load + 18) ∧
      ∀ get, (arrive { r with nextCall := r.nextCall + 1 } r.nextCall).pool.get? r.nextCall = some get →
        (arrive { r with nextCall := r.nextCall + 1 } r.nextCall).waitsFor (.deadline r.nextCall) =
          true := by
  obtain ⟨new, untold⟩ := sound.fresh r.nextCall (Nat.le_refl _)
  have apart : r.nextCall ∉ calls := by
    intro member
    obtain ⟨get, found⟩ := shares.exists_get? member
    exact absurd (new.symm.trans found) nofun
  obtain ⟨get, rests, stands, beside, serves⟩ := stands_get sound.lending offerable new shares
  have lends : Lends r.pool (.get r.nextCall) := ⟨offerable, untold⟩
  have counts := sound.aside r.server (Nat.le_succ r.nextCall) [] fun _ => False
  obtain ⟨comes, load, pool, server⟩ := counts.orderly.serve (Nat.lt_succ_self _) lends beside serves
  have goes := (counts.mono (List.nil_subset [r.nextCall]) fun _ => id).trans comes
  unfold arrive
  generalize step { r with nextCall := r.nextCall + 1 } (.get r.nextCall) = t at pool server goes load ⊢
  have knows : Knows t.server t.pool.opened t.pool.closed := by
    rw [pool, server, serves.opened, serves.closed]
    exact sound.knows
  have fewer : t.load ≤ r.load + 1 := load
  rw [← pool] at stands
  cases stands with
  | waits found shares' =>
    have turn : get = .granted → Offerable t.pool := by
      rintro rfl
      exact absurd rests (by simp)
    obtain ⟨pursues, waits⟩ := (goes.sound sound knows).borrows found turn shares'
    refine ⟨(pursues.after (goes.mono (List.Subset.refl _) nofun) (List.Subset.refl _)
      fun _ => id).within (fun _ => trivial) ?_, waits⟩
    have first := owed_le t (.get r.nextCall)
    have second := owed_le t (.deadline r.nextCall)
    rcases rests with rfl | rfl <;> simp only [Get.cost, reduceCtorEq, if_false, if_true] <;> omega
  | lent result shares' =>
    have ended := shares'.get?_eq_none apart
    have pursues : Pursues Knows (fun _ => False) r t r.nextCall calls connections True (r.load + 18) :=
      ⟨goes, knows, .lent result shares' (by omega)⟩
    rw [borrow_of_none ended]
    exact ⟨pursues.forgets nofun ended, fun get found => absurd (ended.symm.trans found) nofun⟩
  | failed result shares' =>
    have ended := shares'.get?_eq_none apart
    have pursues : Pursues Knows (fun _ => False) r t r.nextCall calls connections True (r.load + 18) :=
      ⟨goes, knows, .failed result shares' (by omega)⟩
    rw [borrow_of_none ended]
    exact ⟨pursues.forgets nofun ended, fun get found => absurd (ended.symm.trans found) nofun⟩

end Borrowers

end Run

end SqlProbe.Pool
