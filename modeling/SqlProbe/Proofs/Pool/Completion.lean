import SqlProbe.Proofs.Pool.Workers

/-!
# Workers come to their end

While workers share a pool that only lends, something can always go on: the script, the closing of a
connection that came back, or time. Each of them makes the load and what the workers may still add to
it smaller, and the script has been given more effort than this. So all workers come to their end,
and then nobody waits for a connection and none is borrowed.
-/

namespace SqlProbe.Pool.Run

variable {σ α : Type} {Knows : σ → List Nat → List Nat → Prop}

/-- Workers share a pool that only lends, and what each of them waits for has begun. -/
structure Team (Knows : σ → List Nat → List Nat → Prop) (jobs : List (Job α)) (r : Run σ) :
    Prop where
  sound : Sound Knows r
  shares : Shares r.pool (callsOf jobs) (connectionsOf jobs)
  begun : Each (Job.Begun r) 1 jobs
  fit : Offerable r.pool ∨ Served r.pool ∧ ∀ job ∈ jobs, job ≠ .fresh

/-- What the workers may still add to the load, and the load itself. -/
def totalCost (jobs : List (Job α)) (r : Run σ) : Nat := r.load + costOf r.pool jobs

/-- The script has visited all workers until they have to wait, or has something to do again. -/
structure Advances (Knows : σ → List Nat → List Nat → Prop) (jobs next : List (Job α))
    (r t : Run σ) : Prop where
  team : Team Knows next t
  settled : .script ∈ t.ready ∨ Each (Job.Settled t) 1 next
  cost : totalCost next t ≤ totalCost jobs r
  driver : t.driver = r.driver

section Visiting

variable {r : Run σ} {work : Nat → Call σ α} {jobs : List (Job α)}

theorem Team.round (team : Team Knows jobs r) (gentle : Gentle work Knows) :
    Advances Knows jobs (pursueJobs work 1 jobs r).1 r (pursueJobs work 1 jobs r).2 := by
  have shares : Shares r.pool (callsOf jobs ++ []) (connectionsOf jobs ++ []) := by
    rw [List.append_nil, List.append_nil]
    exact team.shares
  have rounds := team.sound.rounds gentle jobs shares team.begun team.fit
  obtain ⟨own, _, goes⟩ := rounds.goes
  have left := rounds.shares
  rw [List.append_nil, List.append_nil] at left
  exact ⟨⟨goes.sound team.sound rounds.knows, left, rounds.begun,
    team.fit.imp goes.offerable fun ⟨served, old⟩ => ⟨rounds.served served old, rounds.old⟩⟩,
    rounds.settled, rounds.load, goes.same.1⟩

theorem Team.rounds (team : Team Knows jobs r) (gentle : Gentle work Knows) {fuel : Nat}
    (settled : fuel = 0 → .script ∈ r.ready ∨ Each (Job.Settled r) 1 jobs) :
    Advances Knows jobs (pursueAll work fuel jobs r).1 r (pursueAll work fuel jobs r).2 := by
  induction fuel generalizing jobs r with
  | zero => exact ⟨team, settled rfl, Nat.le_refl _, rfl⟩
  | succ fuel ih =>
    have round := team.round gentle
    rw [pursueAll]
    generalize pursueJobs work 1 jobs r = outcome at round ⊢
    obtain ⟨next, t⟩ := outcome
    dsimp only at round ⊢
    split
    · have rest := ih round.team fun _ => round.settled
      exact ⟨rest.team, rest.settled, Nat.le_trans rest.cost round.cost,
        rest.driver.trans round.driver⟩
    · exact round

end Visiting

/-! ### Between two visits -/

section Frames

variable {r t : Run σ} {jobs : List (Job α)} {index : Nat}

theorem Job.Begun.kept {job : Job α} (begun : job.Begun r index)
    (waits : ∀ wait, wait.task = .script → r.Begun wait → t.Begun wait)
    (gets : t.pool.gets = r.pool.gets) : job.Begun t index := by
  cases job with
  | fresh => trivial
  | done outcome => trivial
  | working connection => exact waits _ rfl begun
  | getting call =>
    refine ⟨waits _ rfl begun.1, fun opening => waits _ rfl (begun.2 ?_)⟩
    rwa [State.get?, ← gets]

theorem Job.Settled.kept {job : Job α} (settled : job.Settled r index)
    (waits : ∀ wait, wait.task = .script → r.waitsFor wait = true → t.waitsFor wait = true)
    (gets : t.pool.gets = r.pool.gets) : job.Settled t index := by
  cases job with
  | fresh => contradiction
  | done outcome => trivial
  | working connection => exact waits _ rfl settled
  | getting call =>
    refine ⟨waits _ rfl settled.1, ?_⟩
    rw [State.get?, gets]
    exact settled.2.imp_right (And.imp_right (waits _ rfl))

theorem costOf_eq {s t : State} (gets : t.gets = s.gets) (jobs : List (Job α)) :
    costOf t jobs = costOf s jobs := by
  refine congrArg List.sum (List.map_congr_left fun job _ => ?_)
  cases job with
  | getting call => rw [Job.cost, Job.cost, State.get?, State.get?, gets]
  | _ => rfl

/-- The closing of a connection goes on without the workers. -/
theorem Sound.tends (sound : Sound Knows r) {connection : Nat}
    (closing : connection ∈ r.pool.closings) (tends : Tends r t connection) :
    Sound Knows t ∧ t.pool.gets = r.pool.gets ∧ t.pool.loans = r.pool.loans ∧
      (Offerable r.pool → Offerable t.pool) := by
  obtain ⟨driver, target, nextCall⟩ := tends.same
  have faithful : Faithful t.driver t.target Knows := by
    rw [driver, target]
    exact sound.faithful
  rcases tends.pool with ⟨pool, server⟩ | ⟨server, pool, -⟩
  · refine ⟨⟨⟨tends.scheduled, ?_, ?_⟩, faithful, ?_, ?_⟩, ?_, ?_, ?_⟩
    · rw [pool]
      exact sound.lending
    · rw [pool, nextCall]
      exact sound.fresh
    · rw [pool, server]
      exact sound.knows
    · rw [driver, pool]
      exact sound.accounted
    · rw [pool]
    · rw [pool]
    · rw [pool]
      exact id
  · have opened := sound.lending.opened_of_closing closing
    have knows := sound.faithful.closed _ _ _ connection sound.knows opened
    rw [← server] at knows
    have step := pool.trans (step_retired closing _)
    refine ⟨⟨⟨tends.scheduled, ?_, ?_⟩, faithful, ?_, ?_⟩, ?_, ?_, ?_⟩
    · rw [pool]
      exact sound.lending.retired closing _
    · rw [step, nextCall]
      exact sound.fresh
    · rw [step]
      exact knows
    · rw [driver, pool]
      intro thorough
      have closed := thorough _ _ _ connection sound.knows opened
      rw [← server] at closed
      exact sound.lending.accounted closed (sound.accounted thorough)
    · rw [step]
    · rw [step]
    · rw [pool]
      exact fun offerable => offerable_retired offerable sound.lending closing _

/-- Time passes. -/
theorem Sound.moves (sound : Sound Knows r) (moves : Moves r t) :
    Sound Knows t ∧ t.pool.gets = r.pool.gets ∧ t.pool.loans = r.pool.loans ∧
      t.pool.idle = r.pool.idle := by
  obtain ⟨driver, target, nextCall, server⟩ := moves.same
  obtain ⟨span, pool⟩ := moves.pool
  have lends : Lends r.pool (.tick span) := trivial
  refine ⟨⟨⟨moves.scheduled, ?_, ?_⟩, ?_, ?_, ?_⟩, ?_, ?_, ?_⟩
  · rw [pool]
    exact sound.lending.step lends
  · rw [pool, nextCall]
    exact sound.fresh
  · rw [driver, target]
    exact sound.faithful
  · rw [pool, server]
    exact sound.knows
  · rw [driver, pool]
    exact fun thorough => sound.lending.accounted lends (sound.accounted thorough)
  · rw [pool]
    rfl
  · rw [pool]
    rfl
  · rw [pool]
    rfl

end Frames

/-! ### The whole of it -/

/-- Between two visits: the script can go on, or all workers wait and one of them has yet to end. -/
structure Employed (Knows : σ → List Nat → List Nat → Prop) (jobs : List (Job α)) (r : Run σ) : Prop
    extends Team Knows jobs r where
  waits : .script ∈ r.ready ∨ Each (Job.Settled r) 1 jobs ∧ ∃ job ∈ jobs, job.outcome? = none

/-- All workers have ended: nobody waits for a connection, and none is borrowed. -/
structure Idles (Knows : σ → List Nat → List Nat → Prop) (r : Run σ) : Prop where
  sound : Sound Knows r
  gets : r.pool.gets = []
  loans : r.pool.loans = []

/-- Nobody has borrowed from a new pool. -/
theorem Idles.new {driver : Driver σ} {target : SqlProbe.Config} {server : σ} (config : Config)
    (faithful : Faithful driver target Knows) (knows : Knows server [] []) :
    Idles Knows { driver, target, server, pool := .ofConfig config } where
  sound := {
    background := rfl
    due := nofun
    ready := fun _ => Nat.zero_le 1
    once := List.nodup_nil
    tasks := nofun
    closing := nofun
    timers := nofun
    lending := .ofConfig config
    fresh := fun _ _ => ⟨rfl, rfl⟩
    faithful := faithful
    knows := knows
    accounted := fun _ => .ofConfig config false }
  gets := rfl
  loans := rfl

section Driving

variable {r : Run σ} {jobs : List (Job α)} {work : Nat → Call σ α}

theorem Employed.tends (employed : Employed Knows jobs r) {task : Task} {ready : List Task}
    (first : r.ready = task :: ready) (other : task ≠ .script) :
    Employed Knows jobs ({ r with ready }.perform task) ∧
      ({ r with ready }.perform task).driver = r.driver ∧
      totalCost jobs ({ r with ready }.perform task) < totalCost jobs r := by
  obtain ⟨connection, closing, rfl⟩ :=
    (employed.sound.tasks task (first ▸ List.mem_cons_self)).resolve_left other
  have tends := employed.sound.toScheduled.tends first (employed.sound.faithful.close connection)
  generalize perform { r with ready } (.closing connection) = t at tends ⊢
  obtain ⟨sound, gets, loans, offerable⟩ := employed.sound.tends closing tends
  have waits (wait : Wait) (script : wait.task = .script) (waiting : r.waitsFor wait = true) :
      t.waitsFor wait = true := (tends.waits wait script).1.trans waiting
  have begun (wait : Wait) (script : wait.task = .script) : r.Begun wait → t.Begun wait := by
    rw [Begun, Begun, (tends.waits wait script).1, (tends.waits wait script).2]
    exact id
  refine ⟨⟨⟨sound, employed.shares.same (congrArg _ gets) loans, ?_, ?_⟩, ?_⟩, tends.same.1, ?_⟩
  · exact employed.begun.imp fun _ _ _ _ before => before.kept begun gets
  · refine employed.fit.imp offerable (And.imp_left fun served call get found => ?_)
    exact served call get (by rwa [State.get?, ← gets])
  · refine employed.waits.imp tends.script (And.imp_left fun settled => ?_)
    exact settled.imp fun _ _ _ _ before => before.kept waits gets
  · rw [totalCost, totalCost, costOf_eq gets]
    exact Nat.add_lt_add_right tends.load _

theorem Each.of_forall {Holds : Nat → Job α → Prop} {index : Nat}
    (each : ∀ job ∈ jobs, ∀ index, Holds index job) : Each Holds index jobs := by
  induction jobs generalizing index with
  | nil => trivial
  | cons job jobs ih =>
    exact ⟨each job List.mem_cons_self index,
      ih fun other member => each other (List.mem_cons_of_mem _ member)⟩

theorem Each.exists_of_mem {Holds : Nat → Job α → Prop} {index : Nat} {job : Job α}
    (each : Each Holds index jobs) (member : job ∈ jobs) : ∃ index, Holds index job := by
  induction jobs generalizing index with
  | nil => contradiction
  | cons first jobs ih =>
    rcases List.mem_cons.mp member with rfl | later
    · exact ⟨index, each.1⟩
    · exact ih each.2 later

/-- As long as workers wait, something that they wait for will end. -/
theorem timers_ne_nil (settled : Each (Job.Settled r) 1 jobs)
    (unfinished : ∃ job ∈ jobs, job.outcome? = none) : r.timers ≠ [] := by
  obtain ⟨job, member, unended⟩ := unfinished
  obtain ⟨index, settled⟩ := settled.exists_of_mem member
  have waits {wait : Wait} (since : r.waitsFor wait = true) : r.timers ≠ [] := by
    obtain ⟨timer, member, _⟩ := waitsFor_iff.mp since
    exact List.ne_nil_of_mem member
  cases job with
  | fresh => contradiction
  | getting call => exact waits settled.1
  | working connection => exact waits settled
  | done outcome => contradiction

/-- While all workers wait, nobody has a turn. -/
theorem ne_granted (shares : Shares r.pool (callsOf jobs) (connectionsOf jobs))
    (settled : Each (Job.Settled r) 1 jobs) (call : Nat) : r.pool.get? call ≠ some .granted := by
  intro granted
  obtain ⟨job, member, mine⟩ := List.mem_flatMap.mp (shares.mem_calls granted)
  obtain ⟨index, settled⟩ := settled.exists_of_mem member
  cases job with
  | getting other =>
    rw [List.mem_singleton.mp mine] at granted
    rcases settled.2 with queued | ⟨opening, _⟩
    · exact absurd (granted.symm.trans queued) nofun
    · exact absurd (granted.symm.trans opening) nofun
  | _ => contradiction

theorem Employed.moves (employed : Employed Knows jobs r) (still : r.ready = []) :
    ∃ time, r.nextDue = some time ∧ Employed Knows jobs (r.moveTo time) ∧
      (r.moveTo time).driver = r.driver ∧
      totalCost jobs (r.moveTo time) < totalCost jobs r := by
  obtain ⟨settled, unfinished⟩ := employed.waits.resolve_left (by rw [still]; nofun)
  obtain ⟨time, next, moves⟩ :=
    employed.sound.toScheduled.moves still (timers_ne_nil settled unfinished)
  refine ⟨time, next, ?_⟩
  generalize r.moveTo time = t at moves ⊢
  obtain ⟨sound, gets, loans, idle⟩ := employed.sound.moves moves
  refine ⟨⟨⟨sound, employed.shares.same (congrArg _ gets) loans, ?_, ?_⟩, ?_⟩, moves.same.1, ?_⟩
  · exact employed.begun.imp fun _ _ _ _ before => before.kept (fun wait _ => moves.begun wait) gets
  · -- Time makes idle connections too old, but then nobody can have a turn any more.
    rcases employed.sound.lending.idle_eq_nil_or_served (ne_granted employed.shares settled) with
      none | served
    · refine .inl fun entry member => ?_
      rw [idle, none] at member
      contradiction
    · refine .inr ⟨fun call get found => served call get (by rwa [State.get?, ← gets]), ?_⟩
      intro job member
      obtain ⟨index, settled⟩ := settled.exists_of_mem member
      exact Job.ne_fresh_of_settled settled
  · refine moves.waits.imp_right fun waits => ⟨?_, unfinished⟩
    exact settled.imp fun _ _ _ _ before => before.kept waits gets
  · rw [totalCost, totalCost, costOf_eq gets]
    exact Nat.add_lt_add_right moves.load _

theorem Employed.visits (employed : Employed Knows jobs r) (gentle : Gentle work Knows)
    {ready : List Task} (first : r.ready = .script :: ready) (count : Nat) :
    Advances Knows jobs (pursueAll work (count + 1) jobs { r with ready }).1 { r with ready }
        (pursueAll work (count + 1) jobs { r with ready }).2 ∧
      totalCost jobs { r with ready } < totalCost jobs r := by
  obtain ⟨scheduled, load⟩ := employed.sound.toScheduled.pop first
  have team : Team Knows jobs { r with ready } := by
    refine ⟨⟨⟨scheduled, employed.sound.lending, employed.sound.fresh⟩, employed.sound.faithful,
      employed.sound.knows, employed.sound.accounted⟩, employed.shares, ?_, employed.fit⟩
    exact employed.begun.imp fun _ _ _ _ before => before.kept (fun _ _ => id) rfl
  refine ⟨team.rounds gentle (fun none => absurd none (Nat.succ_ne_zero count)), ?_⟩
  change Run.load _ + costOf r.pool jobs < r.load + costOf r.pool jobs
  omega

theorem exists_of_mapM_eq_none (unfinished : jobs.mapM Job.outcome? = none) :
    ∃ job ∈ jobs, job.outcome? = none := by
  induction jobs with
  | nil => contradiction
  | cons job jobs ih =>
    cases outcome : job.outcome? with
    | none => exact ⟨job, List.mem_cons_self, outcome⟩
    | some value =>
      rw [List.mapM_cons, outcome] at unfinished
      cases later : jobs.mapM Job.outcome? with
      | none =>
        obtain ⟨other, member, unended⟩ := ih later
        exact ⟨other, List.mem_cons_of_mem _ member, unended⟩
      | some outcomes =>
        rw [later] at unfinished
        contradiction

theorem eq_map_done {outcomes : List (Except Error (Nat × α))}
    (ended : jobs.mapM Job.outcome? = some outcomes) : jobs = outcomes.map .done := by
  induction jobs generalizing outcomes with
  | nil => cases ended; rfl
  | cons job jobs ih =>
    rw [List.mapM_cons] at ended
    obtain ⟨outcome, done, ended⟩ := Option.bind_eq_some_iff.mp ended
    obtain ⟨others, rest, ended⟩ := Option.bind_eq_some_iff.mp ended
    cases ended
    rw [ih rest, List.map_cons]
    cases job with
    | done => cases done; rfl
    | _ => contradiction

/-- Who has ended neither waits for a connection nor has one. -/
theorem lists_map_done (outcomes : List (Except Error (Nat × α))) :
    callsOf (outcomes.map Job.done) = [] ∧ connectionsOf (outcomes.map Job.done) = [] := by
  constructor <;> refine List.flatMap_eq_nil_iff.mpr fun job member => ?_
  all_goals
    obtain ⟨outcome, -, rfl⟩ := List.mem_map.mp member
    rfl

/-- What the script of the workers does at each visit. -/
theorem progress (gentle : Gentle work Knows) (count : Nat) (driver : Driver σ) : Progress
    (fun jobs r =>
      let (jobs, r) := pursueAll work (count + 1) jobs r
      match jobs.mapM Job.outcome? with
      | some outcomes => (.inr outcomes, r)
      | none => (.inl jobs, r))
    (fun jobs r => Employed Knows jobs r ∧ r.driver = driver) totalCost
    (fun (_ : List (Except Error (Nat × α))) r => Idles Knows r ∧ r.driver = driver) where
  polled := by
    rintro jobs r ready ⟨employed, rfl⟩ first
    obtain ⟨advances, less⟩ := employed.visits gentle first count
    dsimp only
    generalize pursueAll work (count + 1) jobs { r with ready } = outcome at advances ⊢
    obtain ⟨next, t⟩ := outcome
    dsimp only at advances ⊢
    cases ended : next.mapM Job.outcome? with
    | none =>
      refine .inl ⟨next, t, rfl, ⟨⟨advances.team, advances.settled.imp_right fun settled =>
        ⟨settled, exists_of_mapM_eq_none ended⟩⟩, advances.driver⟩,
        Nat.lt_of_le_of_lt advances.cost less⟩
    | some outcomes =>
      obtain ⟨calls, connections⟩ := lists_map_done outcomes
      have shares := advances.team.shares
      rw [eq_map_done ended, calls, connections] at shares
      exact .inr ⟨outcomes, t, rfl, ⟨advances.team.sound, List.map_eq_nil_iff.mp shares.calls.eq_nil,
        List.map_eq_nil_iff.mp shares.connections.eq_nil⟩, advances.driver⟩
  performed := by
    rintro jobs r task ready ⟨employed, rfl⟩ first other
    obtain ⟨next, driver, less⟩ := employed.tends first other
    exact ⟨⟨next, driver⟩, less⟩
  moved := by
    rintro jobs r ⟨employed, rfl⟩ still
    obtain ⟨time, due, next, driver, less⟩ := employed.moves still
    exact ⟨time, due, ⟨next, driver⟩, less⟩

/-- However many workers there are, all of them come to their end. -/
theorem workers_end (gentle : Gentle work Knows) (count : Nat) (idles : Idles Knows r)
    (offerable : Offerable r.pool) :
    ∃ outcomes t, r.workers count work = (some outcomes, t) ∧ Idles Knows t ∧
      t.driver = r.driver := by
  have sound := idles.sound
  obtain ⟨scheduled, load⟩ := sound.toScheduled.push
  let jobs : List (Job α) := List.replicate count .fresh
  have fresh {job : Job α} (member : job ∈ jobs) : job = .fresh := (List.mem_replicate.mp member).2
  have calls : callsOf jobs = [] :=
    List.flatMap_eq_nil_iff.mpr fun job member => fresh member ▸ rfl
  have connections : connectionsOf jobs = [] :=
    List.flatMap_eq_nil_iff.mpr fun job member => fresh member ▸ rfl
  have employed : Employed Knows jobs { r with ready := .script :: r.ready } := by
    refine ⟨⟨⟨⟨scheduled, sound.lending, sound.fresh⟩, sound.faithful, sound.knows,
      sound.accounted⟩, ?_, ?_, .inl offerable⟩, .inl List.mem_cons_self⟩
    · rw [calls, connections]
      exact ⟨by rw [idles.gets]; exact .refl _, by rw [idles.loans]; exact .refl _⟩
    · exact .of_forall fun job member index => by rw [fresh member]; trivial
  refine (progress gentle count r.driver).ends ⟨employed, rfl⟩ ?_
  have cost : costOf r.pool jobs = count * 18 := by
    rw [costOf, List.map_replicate, List.sum_replicate_nat]
    rfl
  have enough := load_add_le_effort r (4 * count)
  change Run.load _ + costOf r.pool jobs < _
  omega

end Driving

end SqlProbe.Pool.Run
