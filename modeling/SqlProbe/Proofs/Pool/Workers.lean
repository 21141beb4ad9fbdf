import Mathlib.Algebra.Ring.Nat
import SqlProbe.Proofs.Pool.Visits

/-!
# Workers that share a pool

Each worker borrows a connection, works with it and gives it back, and all of them come to their end.
Between two visits of the script a worker waits for something that has begun and will end. What a
visit adds to the load of the run is paid for by how much further the worker has come, and what the
worker does leaves all others as they were, unless one of them has its turn; then the script goes on
once more.
-/

namespace SqlProbe.Pool

variable {σ α : Type}

/-- The work comes to its end, and opens and closes nothing. -/
structure Gentle (work : Nat → Call σ α) (Knows : σ → List Nat → List Nat → Prop) : Prop where
  timely : ∀ connection, Timely (work connection)
  kept : ∀ server opened closed connection, Knows server opened closed →
    Knows ((work connection).finish server).2 opened closed

/-- Nobody comes to wait for a turn when others are let down, give a connection back or have their
turn themselves. -/
theorem Served.beside {own : List Nat} {s t : State} (served : Served s) (beside : Beside own s t)
    (mine : ∀ call ∈ own, ∀ get, t.get? call = some get → get = .opening) : Served t := by
  intro call get found
  by_cases member : call ∈ own
  · exact mine call member get found
  · rcases beside.get? call member with same | ⟨queued, _⟩
    · exact served call get (same ▸ found)
    · exact absurd (served call _ queued) nofun

namespace Run

/-! ### How far workers have come -/

namespace Job

/-- The calls in progress that a worker has made. -/
def calls : Job α → List Nat
  | getting call => [call]
  | _ => []

/-- The connections that a worker has borrowed. -/
def connections : Job α → List Nat
  | working connection => [connection]
  | _ => []

/-- What a worker may still add to the load. -/
def cost (s : State) : Job α → Nat
  | fresh => 18
  | getting call => (s.get? call).elim 14 Get.cost
  | working _ => 6
  | done _ => 0

/-- What the worker with an index waits for has begun. -/
def Begun (r : Run σ) (index : Nat) : Job α → Prop
  | getting call => r.Begun (.deadline call) ∧
      (r.pool.get? call = some .opening → r.Begun (.get call))
  | working _ => r.Begun (.job index)
  | _ => True

/-- The worker with an index waits, and what it waits for has not ended yet; or it has come to its
end. -/
def Settled (r : Run σ) (index : Nat) : Job α → Prop
  | fresh => False
  | getting call => r.waitsFor (.deadline call) = true ∧ (r.pool.get? call = some .queued ∨
      r.pool.get? call = some .opening ∧ r.waitsFor (.get call) = true)
  | working _ => r.waitsFor (.job index) = true
  | done _ => True

end Job

/-- The waits of the workers with these indices and of the borrowers with these calls. -/
def Own (indices : Nat → Prop) (calls : List Nat) (wait : Wait) : Prop :=
  (∃ index, indices index ∧ wait = .job index) ∨ ∃ call ∈ calls, Borrower call wait

theorem Own.apart {here there : Nat → Prop} {calls others : List Nat} {wait : Wait}
    (own : Own here calls wait) (indices : ∀ index, here index → ¬there index)
    (apart : ∀ call ∈ calls, call ∉ others) : ¬Own there others wait := by
  rintro (⟨index, inside, rfl⟩ | ⟨call, member, waits⟩)
  · rcases own with ⟨same, here, eq⟩ | ⟨call, _, waits⟩
    · cases eq
      exact indices index here inside
    · rcases waits with waits | waits <;> contradiction
  · rcases own with ⟨index, _, rfl⟩ | ⟨other, among, waits'⟩
    · rcases waits with waits | waits <;> contradiction
    · have same : other = call := by
        rcases waits with rfl | rfl <;> rcases waits' with eq | eq <;> cases eq <;> rfl
      exact apart other among (same ▸ member)

variable {Knows : σ → List Nat → List Nat → Prop}

/-- The script has visited a worker, which has made no calls but its own and perhaps a new one. -/
structure Visits (Knows : σ → List Nat → List Nat → Prop) (index : Nat) (r t : Run σ)
    (job next : Job α) (calls connections : List Nat) : Prop where
  goes : ∃ own, (∀ call ∈ own, call ∈ job.calls ∨ r.nextCall ≤ call) ∧
    Goes own (Own (· = index) own) r t
  knows : Knows t.server t.pool.opened t.pool.closed
  shares : Shares t.pool (next.calls ++ calls) (next.connections ++ connections)
  settled : next.Settled t index
  load : t.load + next.cost t.pool ≤ r.load + job.cost r.pool
  served : Served r.pool → job ≠ .fresh → Served t.pool

section Visiting

variable {r : Run σ} {index : Nat} {work : Nat → Call σ α} {call connection : Nat}
  {calls connections : List Nat}

/-- A borrower that works gets nearer to its end, or gives its connection back. -/
structure Works (Knows : σ → List Nat → List Nat → Prop) (index : Nat) (r t : Run σ) (next : Job α)
    (calls connections : List Nat) : Prop where
  goes : Goes [] (· = .job index) r t
  knows : Knows t.server t.pool.opened t.pool.closed
  bare : next.calls = []
  shares : Shares t.pool calls (next.connections ++ connections)
  settled : next.Settled t index
  load : t.load + next.cost t.pool ≤ r.load + 6 + r.owed (.job index)
  served : Served r.pool → Served t.pool

/-- A borrowed connection comes back. -/
theorem Orderly.givesBack (orderly : Orderly r)
    (shares : Shares r.pool calls (connection :: connections)) :
    Goes [] (fun _ => False) r (r.step (.giveBack connection false)) ∧
      (r.step (.giveBack connection false)).load ≤ r.load + 6 ∧
      Shares (r.step (.giveBack connection false)).pool calls connections ∧
      Untouched r.pool (r.step (.giveBack connection false)).pool ∧
      (r.step (.giveBack connection false)).server = r.server := by
  obtain ⟨left, beside, untouched, closings⟩ := stands_giveBack shares
  have lends : Lends r.pool (.giveBack connection false) := rfl
  have offerable (offerable : Offerable r.pool) := offerable_giveBack offerable shares
  obtain ⟨new, grown, few⟩ : ∃ new, (r.pool.step (.giveBack connection false)).closings =
      r.pool.closings ++ new ∧ new.length ≤ 1 := by
    rcases closings with same | more
    · exact ⟨[], same.trans (List.append_nil _).symm, Nat.zero_le _⟩
    · exact ⟨[connection], more, Nat.le_refl _⟩
  obtain ⟨goes, load, pool, server⟩ := orderly.step lends beside nofun grown offerable
  refine ⟨goes, by omega, pool ▸ left, pool ▸ untouched, server⟩

theorem Sound.works (sound : Sound Knows r) (gentle : Gentle work Knows) (index : Nat)
    (shares : Shares r.pool calls (connection :: connections)) :
    Works Knows index r (pursueWork index work connection r).2 (pursueWork index work connection r).1
      calls connections := by
  have awaited := awaits r (.job index) (gentle.timely connection)
  unfold pursueWork
  generalize r.await (.job index) (work connection) = outcome at awaited ⊢
  cases awaited with
  | waiting since =>
    exact ⟨sound.still _ _, sound.knows, rfl, shares, since, Nat.le_add_right _ _, id⟩
  | begins due new =>
    obtain ⟨goes, load, since⟩ := sound.begin (show (Wait.job index).task = .script from rfl) due
    refine ⟨goes.mono nofun nofun, sound.knows, rfl, shares, since, ?_, id⟩
    rw [load, owed, if_neg new]
    change r.load + 3 + 6 ≤ r.load + 6 + 3
    omega
  | ends =>
    obtain ⟨passes, less⟩ := sound.ends (show (Wait.job index).task = .script from rfl)
      ((work connection).finish r.server).2
    obtain ⟨goes, load, left, untouched, server⟩ := passes.orderly.givesBack shares
    refine ⟨passes.trans (goes.mono (List.Subset.refl _) nofun), ?_, rfl, left, trivial, ?_, ?_⟩
    · dsimp only
      rw [server, untouched.opened, untouched.closed]
      exact gentle.kept _ _ _ connection sound.knows
    · have fewer := Nat.le_trans load (Nat.add_le_add_right less 6)
      exact Nat.le_trans fewer (Nat.le_add_right _ _)
    · exact fun served => served.beside (passes.trans (goes.mono (List.Subset.refl _) nofun)).pool nofun

/-- A worker whose borrower has gone on waits with it, works with its connection, or is done. -/
theorem Pursues.visits {t : Run σ} {job : Job α} {queues : Prop}
    (pursues : Pursues Knows (Borrower call) r t call calls connections queues
      (r.load + job.cost r.pool)) (sound : Sound Knows r) (gentle : Gentle work Knows)
    (patience : ∀ get, t.pool.get? call = some get → t.waitsFor (.deadline call) = true)
    (own : call ∈ job.calls ∨ r.nextCall ≤ call) (apart : call ∉ calls)
    (served : Served r.pool → job ≠ .fresh → ¬queues) :
    Visits Knows index r (pursueGetting index work call t).2 job (pursueGetting index work call t).1
      calls connections := by
  have goes := pursues.goes
  have mine : ∀ wait, Borrower call wait → Own (· = index) [call] wait :=
    fun _ waits => .inr ⟨call, List.mem_singleton_self call, waits⟩
  have known : ∀ other ∈ [call], other ∈ job.calls ∨ r.nextCall ≤ other :=
    fun _ member => List.mem_singleton.mp member ▸ own
  unfold pursueGetting
  cases pursues.fares with
  | @waits get found rests shares load =>
    rw [(goes.orderly.lending.waiting.of_get? found).outcome]
    refine ⟨⟨[call], known, goes.mono (List.Subset.refl _) mine⟩, pursues.knows, shares, ?_, ?_, ?_⟩
    · refine ⟨patience get found, ?_⟩
      rcases rests with ⟨rfl, _⟩ | ⟨rfl, since⟩
      · exact .inl found
      · exact .inr ⟨found, since⟩
    · dsimp only [Job.cost]
      rwa [found]
    · intro before old
      refine before.beside goes.pool fun other member now found' => ?_
      rw [List.mem_singleton.mp member, found] at found'
      cases found'
      exact (rests.resolve_left fun queued => served before old queued.2).1
  | @lent connection result shares load =>
    rw [result]
    have works := (goes.sound sound pursues.knows).works gentle index shares
    refine ⟨⟨[call], known, (goes.mono (List.Subset.refl _) mine).trans
      (works.goes.mono (List.nil_subset _) fun _ same => .inl ⟨index, rfl, same⟩)⟩,
      works.knows, ?_, works.settled, ?_, ?_⟩
    · rw [works.bare]
      exact works.shares
    · have most := owed_le t (.job index)
      have less := works.load
      dsimp only at less ⊢
      omega
    · intro before old
      refine works.served (before.beside goes.pool fun other member now found => ?_)
      rw [List.mem_singleton.mp member, shares.get?_eq_none apart] at found
      contradiction
  | failed result shares load =>
    rw [result]
    refine ⟨⟨[call], known, goes.mono (List.Subset.refl _) mine⟩, pursues.knows, shares, trivial, load,
      ?_⟩
    intro before old
    refine before.beside goes.pool fun other member now found => ?_
    rw [List.mem_singleton.mp member, shares.get?_eq_none apart] at found
    contradiction

/-- A visit to a worker. -/
theorem Sound.visits (sound : Sound Knows r) (gentle : Gentle work Knows) (job : Job α)
    (shares : Shares r.pool (job.calls ++ calls) (job.connections ++ connections))
    (begun : job.Begun r index) (fit : Offerable r.pool ∨ Served r.pool ∧ job ≠ .fresh) :
    Visits Knows index r (pursueJob index work job r).2 job (pursueJob index work job r).1
      calls connections := by
  cases job with
  | fresh =>
    have offerable := fit.resolve_right fun served => served.2 rfl
    obtain ⟨pursues, patience⟩ := sound.arrives offerable shares
    have apart : r.nextCall ∉ calls := by
      intro member
      obtain ⟨get, found⟩ := shares.exists_get? member
      exact absurd ((sound.fresh r.nextCall (Nat.le_refl _)).1.symm.trans found) nofun
    exact pursues.visits sound gentle patience (.inr (Nat.le_refl _)) apart
      fun _ old => absurd rfl old
  | getting call =>
    obtain ⟨get, found⟩ := shares.exists_get? (List.mem_append_left _ (List.mem_singleton_self call))
    have apart := shares.not_mem sound.lending.balance.distinct
    have turn : get = .granted → Offerable r.pool := by
      rintro rfl
      exact fit.resolve_right fun served => absurd (served.1 call _ found) nofun
    obtain ⟨pursues, patience⟩ := sound.borrows found turn shares
    have paid : (if get = .opening then r.owed (.get call) else 0) + r.owed (.deadline call) = 0 := by
      rw [owed, owed, if_pos begun.1]
      split
      · next opening => rw [if_pos (begun.2 (opening ▸ found))]
      · rfl
    refine Pursues.visits (pursues.within id ?_) sound gentle patience
      (.inl (List.mem_singleton_self call)) apart ?_
    · dsimp only [Job.cost]
      rw [found, Option.elim_some]
      omega
    · rintro served - rfl
      exact absurd (served call _ found) nofun
  | working connection =>
    have works := sound.works gentle index shares
    have paid : r.owed (.job index) = 0 := if_pos begun
    refine ⟨⟨[], nofun, works.goes.mono (List.Subset.refl _) fun _ same => .inl ⟨index, rfl, same⟩⟩,
      works.knows, ?_,
      works.settled, ?_, fun served _ => works.served served⟩
    · exact (congrArg (· ++ calls) works.bare) ▸ works.shares
    · have less := works.load
      rwa [paid, Nat.add_zero] at less
  | done outcome =>
    exact ⟨⟨[], nofun, sound.still _ _⟩, sound.knows, shares, trivial, Nat.le_refl _,
      fun served _ => served⟩

end Visiting

/-! ### Rounds of visits -/

/-- Something holds of every worker with its index, the first of which is given. -/
def Each (Holds : Nat → Job α → Prop) : Nat → List (Job α) → Prop
  | _, [] => True
  | index, job :: jobs => Holds index job ∧ Each Holds (index + 1) jobs

/-- The calls in progress that workers have made. -/
def callsOf (jobs : List (Job α)) : List Nat := jobs.flatMap Job.calls

/-- The connections that workers have borrowed. -/
def connectionsOf (jobs : List (Job α)) : List Nat := jobs.flatMap Job.connections

/-- What workers may still add to the load. -/
def costOf (s : State) (jobs : List (Job α)) : Nat := (jobs.map (Job.cost s)).sum

theorem Each.imp {P Q : Nat → Job α → Prop} {index : Nat} {jobs : List (Job α)}
    (each : Each P index jobs)
    (step : ∀ later job, index ≤ later → job ∈ jobs → P later job → Q later job) :
    Each Q index jobs := by
  induction jobs generalizing index with
  | nil => trivial
  | cons job jobs ih =>
    refine ⟨step index job (Nat.le_refl _) List.mem_cons_self each.1, ih each.2 ?_⟩
    intro later job after member
    exact step later job (Nat.le_of_succ_le after) (List.mem_cons_of_mem _ member)

/-- What goes on for others leaves the worker with an index as it is, unless that has its turn; then
the script goes on. -/
structure Spares (r t : Run σ) (index : Nat) (job : Job α) : Prop where
  begun : job.Begun r index → job.Begun t index
  settled : job.Settled r index → .script ∈ t.ready ∨ job.Settled t index
  cost : job.cost t.pool = job.cost r.pool

theorem Goes.spares {own : List Nat} {mine : Wait → Prop} {r t : Run σ} (goes : Goes own mine r t)
    {index : Nat} {job : Job α} (apart : ∀ call ∈ job.calls, call ∉ own)
    (others : ∀ wait, Own (· = index) job.calls wait → ¬mine wait) : Spares r t index job := by
  cases job with
  | fresh => exact ⟨id, .inr, rfl⟩
  | done outcome => exact ⟨id, .inr, rfl⟩
  | working connection =>
    have other : ¬mine (.job index) := others _ (.inl ⟨index, rfl, rfl⟩)
    exact ⟨goes.begun _ other, fun since => .inr (goes.waits _ other since), rfl⟩
  | getting call =>
    have member := List.mem_singleton_self call
    have deadline : ¬mine (.deadline call) := others _ (.inr ⟨call, member, .inr rfl⟩)
    have get : ¬mine (.get call) := others _ (.inr ⟨call, member, .inl rfl⟩)
    rcases goes.pool.get? call (apart call member) with same | ⟨queued, granted⟩
    · refine ⟨?_, ?_, by rw [Job.cost, Job.cost, same]⟩
      · rintro ⟨begun, opening⟩
        exact ⟨goes.begun _ deadline begun, fun found => goes.begun _ get (opening (same ▸ found))⟩
      · rintro ⟨since, waits⟩
        refine .inr ⟨goes.waits _ deadline since, ?_⟩
        rw [same]
        exact waits.imp_right fun ⟨opening, since⟩ => ⟨opening, goes.waits _ get since⟩
    · refine ⟨?_, ?_, by rw [Job.cost, Job.cost, queued, granted]; rfl⟩
      · rintro ⟨begun, _⟩
        exact ⟨goes.begun _ deadline begun, fun opening => absurd (granted.symm.trans opening) nofun⟩
      · exact fun _ => .inl (goes.turn call (apart call member) queued granted)

/-- The script has visited workers one after the other. -/
structure Rounds (Knows : σ → List Nat → List Nat → Prop) (index : Nat) (r t : Run σ)
    (jobs next : List (Job α)) (calls connections : List Nat) : Prop where
  goes : ∃ own, (∀ call ∈ own, call ∈ callsOf jobs ∨ r.nextCall ≤ call) ∧
    Goes own (Own (index ≤ ·) own) r t
  knows : Knows t.server t.pool.opened t.pool.closed
  shares : Shares t.pool (callsOf next ++ calls) (connectionsOf next ++ connections)
  begun : Each (Job.Begun t) index next
  settled : .script ∈ t.ready ∨ Each (Job.Settled t) index next
  load : t.load + costOf t.pool next ≤ r.load + costOf r.pool jobs
  served : Served r.pool → (∀ job ∈ jobs, job ≠ .fresh) → Served t.pool
  old : ∀ job ∈ next, job ≠ .fresh

theorem Job.begun_of_settled {r : Run σ} {index : Nat} {job : Job α} (settled : job.Settled r index) :
    job.Begun r index := by
  cases job with
  | fresh => trivial
  | done outcome => trivial
  | working connection => exact .inl settled
  | getting call =>
    obtain ⟨since, waits⟩ := settled
    refine ⟨.inl since, fun opening => ?_⟩
    rcases waits with queued | ⟨_, since⟩
    · exact absurd (queued.symm.trans opening) nofun
    · exact .inl since

theorem Job.ne_fresh_of_settled {r : Run σ} {index : Nat} {job : Job α}
    (settled : job.Settled r index) : job ≠ .fresh := by
  rintro rfl
  exact settled

section Rounds

variable {r : Run σ} {index : Nat} {work : Nat → Call σ α} {calls connections : List Nat}

theorem Rounds.nil (sound : Sound Knows r) (shares : Shares r.pool calls connections) :
    Rounds Knows index r r ([] : List (Job α)) [] calls connections where
  goes := ⟨[], nofun, sound.still _ _⟩
  knows := sound.knows
  shares := shares
  begun := trivial
  settled := .inr trivial
  load := Nat.le_refl _
  served := fun served _ => served
  old := nofun

/-- The calls of some workers are none of those of others, nor any that they make. -/
theorem apart_of_shares {t : State} {own mine before after : List Nat} {next : Nat}
    (shares : Shares t (before ++ after) connections) (distinct : (t.gets.map Prod.fst).Nodup)
    (fresh : ∀ call, next ≤ call → t.get? call = none)
    (known : ∀ call ∈ own, call ∈ before ∨ next ≤ call) (among : mine ⊆ after) :
    ∀ call ∈ mine, call ∉ own := by
  intro call member others
  rcases known call others with earlier | unused
  · exact List.disjoint_of_nodup_append (shares.calls.nodup_iff.mp distinct) earlier (among member)
  · obtain ⟨get, found⟩ := shares.exists_get? (List.mem_append_right _ (among member))
    exact absurd ((fresh call unused).symm.trans found) nofun

/-- A worker that is visited first, and then the others. -/
theorem Visits.then {r₁ t : Run σ} {job next : Job α} {jobs nexts : List (Job α)}
    (visits : Visits Knows index r r₁ job next (callsOf jobs ++ calls)
      (connectionsOf jobs ++ connections))
    (before : ∀ other ∈ jobs, other.cost r₁.pool = other.cost r.pool) (after : Spares r₁ t index next)
    (rounds : Rounds Knows (index + 1) r₁ t jobs nexts (next.calls ++ calls)
      (next.connections ++ connections)) :
    Rounds Knows index r t (job :: jobs) (next :: nexts) calls connections := by
  obtain ⟨own, known, goes⟩ := visits.goes
  obtain ⟨own', known', goes'⟩ := rounds.goes
  have settled := after.settled visits.settled
  refine ⟨⟨own ++ own', ?_, ?_⟩, rounds.knows, ?_, ⟨after.begun (Job.begun_of_settled visits.settled),
    rounds.begun⟩, ?_, ?_, ?_, ?_⟩
  · intro call member
    rw [callsOf, List.flatMap_cons, List.mem_append]
    rcases List.mem_append.mp member with first | later
    · exact (known call first).imp_left .inl
    · exact (known' call later).imp .inr (Nat.le_trans goes.later)
  · refine (goes.mono (List.subset_append_left _ _) ?_).trans
      (goes'.mono (List.subset_append_right _ _) ?_)
    · rintro wait (⟨_, rfl, same⟩ | ⟨call, member, waits⟩)
      · exact .inl ⟨_, Nat.le_refl _, same⟩
      · exact .inr ⟨call, List.mem_append_left _ member, waits⟩
    · rintro wait (⟨later, after, same⟩ | ⟨call, member, waits⟩)
      · exact .inl ⟨later, Nat.le_of_succ_le after, same⟩
      · exact .inr ⟨call, List.mem_append_right _ member, waits⟩
  · refine ⟨rounds.shares.calls.trans ?_, rounds.shares.connections.trans ?_⟩
    · rw [callsOf, callsOf, List.flatMap_cons, List.append_assoc]
      exact List.perm_append_comm_assoc _ _ _
    · rw [connectionsOf, connectionsOf, List.flatMap_cons, List.append_assoc]
      exact List.perm_append_comm_assoc _ _ _
  · rcases rounds.settled with script | each
    · exact .inl script
    · exact settled.imp_right fun settled => ⟨settled, each⟩
  · have first := visits.load
    have later := rounds.load
    have same : costOf r₁.pool jobs = costOf r.pool jobs :=
      congrArg List.sum (List.map_congr_left before)
    simp only [costOf, List.map_cons, List.sum_cons] at later same ⊢
    rw [after.cost]
    omega
  · intro served old
    refine rounds.served (visits.served served (old job List.mem_cons_self)) ?_
    exact fun other member => old other (List.mem_cons_of_mem _ member)
  · intro other member
    rcases List.mem_cons.mp member with rfl | later
    · exact Job.ne_fresh_of_settled visits.settled
    · exact rounds.old other later

theorem Sound.rounds (sound : Sound Knows r) (gentle : Gentle work Knows) (jobs : List (Job α))
    (shares : Shares r.pool (callsOf jobs ++ calls) (connectionsOf jobs ++ connections))
    (begun : Each (Job.Begun r) index jobs)
    (fit : Offerable r.pool ∨ Served r.pool ∧ ∀ job ∈ jobs, job ≠ .fresh) :
    Rounds Knows index r (pursueJobs work index jobs r).2 jobs (pursueJobs work index jobs r).1
      calls connections := by
  induction jobs generalizing index r calls connections with
  | nil => exact .nil sound shares
  | cons job jobs ih =>
    have shares' : Shares r.pool (job.calls ++ (callsOf jobs ++ calls))
        (job.connections ++ (connectionsOf jobs ++ connections)) := by
      rwa [callsOf, connectionsOf, List.flatMap_cons, List.flatMap_cons, List.append_assoc,
        List.append_assoc] at shares
    have visits := sound.visits gentle job shares' begun.1 (fit.imp_right fun ⟨served, old⟩ =>
      ⟨served, old job List.mem_cons_self⟩)
    rw [pursueJobs]
    generalize pursueJob index work job r = outcome at visits ⊢
    obtain ⟨next, r₁⟩ := outcome
    dsimp only at visits ⊢
    obtain ⟨own, known, goes⟩ := visits.goes
    have sound' := goes.sound sound visits.knows
    -- A visit to one worker leaves those that are visited later alone, and those leave it alone.
    have spared {other : Job α} (member : other ∈ jobs) {later : Nat} (differ : later ≠ index) :
        Spares r r₁ later other := by
      have apart := apart_of_shares shares' sound.lending.balance.distinct
        (fun call unused => (sound.fresh call unused).1) known
        (fun call mine => List.mem_append_left _ (List.mem_flatMap.mpr ⟨other, member, mine⟩))
      exact goes.spares apart fun wait own => own.apart (fun _ same => same ▸ differ) apart
    have shares'' : Shares r₁.pool (callsOf jobs ++ (next.calls ++ calls))
        (connectionsOf jobs ++ (next.connections ++ connections)) :=
      ⟨visits.shares.calls.trans (List.perm_append_comm_assoc _ _ _),
        visits.shares.connections.trans (List.perm_append_comm_assoc _ _ _)⟩
    have rounds := ih sound' shares''
      (begun.2.imp fun later other after member => (spared member (Nat.ne_of_gt after)).begun)
      (fit.imp goes.offerable fun ⟨served, old⟩ =>
        ⟨visits.served served (old job List.mem_cons_self),
          fun other member => old other (List.mem_cons_of_mem _ member)⟩)
    obtain ⟨own', known', goes'⟩ := rounds.goes
    have apart := apart_of_shares shares'' sound'.lending.balance.distinct
      (fun call unused => (sound'.fresh call unused).1) known' (List.subset_append_left _ calls)
    refine visits.then (fun other member => (spared member (Nat.succ_ne_self index)).cost)
      (goes'.spares apart fun wait own => own.apart (fun _ same => ?_) apart) rounds
    rw [same]
    exact Nat.not_succ_le_self index

end Rounds

end Run

end SqlProbe.Pool
