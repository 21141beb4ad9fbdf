import SqlProbe.Proofs.Pool.Borrowing
import SqlProbe.Proofs.Pool.Completion
import SqlProbe.Proofs.Pool.Records

/-!
# Workers are told of the calls that fail

A worker makes one call to open a connection at most, and one to work with it. If either fails, the
worker comes to its end with the error of that call. An error that no call explains is that of a
worker which has waited for too long. This is found for one visit of the script to a worker, and from
it for all visits to all workers.
-/

namespace SqlProbe.Pool.Run

open Driver (Failed Made)

variable {σ α : Type} {Holds : σ → Prop} {Refuses : Error → Prop} {late : Error}

/-! ### Borrowers -/

/-- With the record the run has come to the same: failed calls that have been added are told, and
nobody has been let down without a reason. -/
def Heard (Holds : σ → Prop) (Refuses : Error → Prop) (late : Error) (told : Error → Prop)
    (calls : List Made) (noted : Run (σ × List Made)) (t : Run σ) : Prop :=
  ∃ new, noted = t.recorded (calls ++ new) ∧ Alone Holds Refuses t ∧
    Explains late (calls ++ new) t.pool ∧ Adds Refuses told new

namespace Heard

variable {told : Error → Prop} {calls new : List Made} {noted : Run (σ × List Made)} {t : Run σ}

/-- At most closings come before. -/
theorem after (adds : Adds Refuses (fun _ => False) new)
    (rest : Heard Holds Refuses late told (calls ++ new) noted t) :
    Heard Holds Refuses late told calls noted t := by
  obtain ⟨rest, eq, alone, explains, added⟩ := rest
  rw [List.append_assoc] at eq explains
  exact ⟨new ++ rest, eq, alone, explains, adds.silent.append added⟩

end Heard

section Borrowing

variable {r : Run σ} {calls : List Made}

theorem Alone.heard (alone : Alone Holds Refuses r) (explains : Explains late calls r.pool)
    (told : Error → Prop) : Heard Holds Refuses late told calls (r.recorded calls) r :=
  ⟨[], by rw [List.append_nil], alone, by rwa [List.append_nil], .nil⟩

theorem Alone.explainsStep (alone : Alone Holds Refuses r) (explains : Explains late calls r.pool)
    {event : Event} (harmless : Harmless event) : Explains late calls (r.step event).pool := by
  rw [alone.pool_step]
  exact explains.harmless harmless

theorem Alone.explainsRefused (alone : Alone Holds Refuses r) (explains : Explains late calls r.pool)
    (call : Nat) {cause : Error} (failed : Failed calls cause) :
    Explains late calls (r.step (.refused call cause)).pool := by
  rw [alone.pool_step]
  refine explains.step (fun _ => nofun) ?_
  rintro _ _ ⟨⟩
  exact failed

/-- A borrower for whom no connection can be opened is let down with the error of that call. -/
theorem Alone.connects (alone : Alone Holds Refuses r) (explains : Explains late calls r.pool)
    (call fuel : Nat) (waits : r.pool.get? call = some .opening) :
    Heard Holds Refuses late (LetDown (pursue (fuel + 1) call r).pool call) calls
      (pursue (fuel + 1) call (r.recorded calls)) (pursue (fuel + 1) call r) := by
  obtain ⟨outcome, t, plain, noted, next, pool, -⟩ :=
    alone.looks calls (.get call) alone.reliable.connect (.connect r.target)
  have noted' : (r.recorded calls).await (.get call)
    ((r.recorded calls).driver.connect (r.recorded calls).target) = _ := noted
  rw [← pool] at explains
  rw [pursue, pursue, recorded_pool, waits]
  dsimp only
  rw [plain, noted']
  cases outcome with
  | none => exact ⟨[], rfl, next, explains.append [], .nil⟩
  | some result =>
    cases result with
    | ok connection =>
      refine ⟨_, step_recorded t _ _, next.step _, ?_, .call rfl ?_⟩
      · exact next.explainsStep (explains.append _) trivial
      · rintro _ ⟨⟩
    | error cause =>
      refine ⟨_, step_recorded t _ _, next.step _, ?_, .call rfl ?_⟩
      · refine next.explainsRefused (explains.append _) call ?_
        exact Driver.failed_append.mpr (.inr (Driver.failed_singleton.mpr ⟨rfl, rfl⟩))
      · rintro _ ⟨⟩
        dsimp only
        rw [next.pool_step, step_refused (pool ▸ waits)]
        exact letDown_fail t.pool call cause

theorem Alone.pursues (alone : Alone Holds Refuses r) (explains : Explains late calls r.pool)
    (fuel call : Nat) : Heard Holds Refuses late (LetDown (pursue fuel call r).pool call) calls
      (pursue fuel call (r.recorded calls)) (pursue fuel call r) := by
  induction fuel generalizing r calls with
  | zero => exact alone.heard explains _
  | succ fuel ih =>
    cases found : r.pool.get? call with
    | none =>
      rw [pursue, pursue, recorded_pool, found]
      exact alone.heard explains _
    | some get =>
      cases get with
      | opening => exact alone.connects explains call fuel found
      | queued =>
        rw [pursue, pursue, recorded_pool, found]
        dsimp only
        rw [explains.running]
        exact alone.heard explains _
      | granted =>
        rw [pursue, pursue, recorded_pool, found]
        dsimp only
        rw [step_recorded]
        exact ih (alone.step _) (alone.explainsStep explains trivial)
      | validating =>
        rw [pursue, pursue, recorded_pool, found]
        exact alone.heard explains _
      | discarding connection =>
        obtain ⟨new, outcome, t, plain, noted, next, pool, adds⟩ :=
          alone.closes calls (.get call) connection
        rw [← pool] at explains
        rw [pursue, pursue, recorded_pool, found]
        dsimp only
        rw [plain, noted]
        cases outcome with
        | none => exact ⟨new, rfl, next, explains.append new, adds.silent⟩
        | some result =>
          dsimp only
          rw [step_recorded]
          refine .after adds (ih (next.step _) ?_)
          exact next.explainsStep (explains.append new) trivial

/-- Forgetting waits changes neither the pool nor the record. -/
theorem Heard.forget {told : Error → Prop} {noted : Run (σ × List Made)} {t : Run σ}
    (heard : Heard Holds Refuses late told calls noted t) (waits : List Wait) :
    Heard Holds Refuses late told calls (noted.forget waits) (t.forget waits) := by
  obtain ⟨new, rfl, alone, explains, adds⟩ := heard
  exact ⟨new, rfl, alone.aside t.server alone.holds _ _ t.nextCall, explains, adds⟩

theorem Alone.borrows (alone : Alone Holds Refuses r) (explains : Explains late calls r.pool)
    (call : Nat) : Heard Holds Refuses late (LetDown (r.borrow call).pool call) calls
      ((r.recorded calls).borrow call) (r.borrow call) := by
  obtain ⟨new, noted, next, explained, adds⟩ := alone.pursues explains (r.pool.idle.length + 3) call
  have noted' : pursue ((r.recorded calls).pool.idle.length + 3) call (r.recorded calls) = _ := noted
  unfold borrow
  rw [noted']
  generalize pursue (r.pool.idle.length + 3) call r = t at next explained adds ⊢
  dsimp only
  rw [recorded_pool]
  by_cases ended : (t.pool.get? call).isNone = true
  · rw [if_pos ended, if_pos ended]
    exact Heard.forget ⟨new, rfl, next, explained, adds⟩ _
  -- Who waits on has not been let down, so no call has failed.
  have quiet : Adds Refuses (fun _ => False) new := by
    refine adds.mono fun cause down => ended ?_
    rw [down.1]
    rfl
  rw [if_neg ended, if_neg ended, show (t.recorded (calls ++ new)).ended = t.ended from rfl,
    show (t.recorded (calls ++ new)).waitsFor = t.waitsFor from rfl]
  by_cases expires : t.ended.contains (.deadline call) || t.pool.config.acquireTimeout = 0
  · rw [if_pos expires, if_pos expires, step_recorded]
    refine .after quiet (Heard.forget ((next.step _).heard ?_ _) _)
    exact next.explainsStep explained trivial
  rw [if_neg expires, if_neg expires]
  by_cases since : t.waitsFor (.deadline call) = true
  · rw [if_pos since, if_pos since]
    exact ⟨new, rfl, next, explained, quiet.silent⟩
  · rw [if_neg since, if_neg since]
    exact ⟨new, rfl, next.aside t.server next.holds _ t.ended t.nextCall, explained, quiet.silent⟩

theorem Alone.arrives (alone : Alone Holds Refuses r) (explains : Explains late calls r.pool)
    (call : Nat) : Heard Holds Refuses late (LetDown (r.arrive call).pool call) calls
      ((r.recorded calls).arrive call) (r.arrive call) := by
  have came : Explains late calls (r.step (.get call)).pool := alone.explainsStep explains trivial
  rw [arrive, arrive, step_recorded]
  exact (alone.step _).borrows came call

end Borrowing

/-! ### Workers -/

/-- How the calls of workers are put on record: none of them closes a connection, and each fails with
the error of its outcome. -/
structure Enters (entry : Nat → Except Error α → Made) : Prop where
  other : ∀ connection outcome, (entry connection outcome).isClose = false
  failure : ∀ connection outcome, (entry connection outcome).failure? = failureOf outcome

/-- The outcome of a worker is explained by the record: what it got is an answer to its call, and an
error is that of a failed call, or that of a lack of patience. -/
def Job.Explained (entry : Nat → Except Error α → Made) (late : Error) (calls : List Made) :
    Job α → Prop
  | done (.error cause) => cause = late ∨ Failed calls cause
  | done (.ok (connection, value)) => entry connection (.ok value) ∈ calls
  | _ => True

theorem Job.Explained.append {entry : Nat → Except Error α → Made} {calls : List Made} {job : Job α}
    (explained : job.Explained entry late calls) (new : List Made) :
    job.Explained entry late (calls ++ new) := by
  cases job with
  | done outcome =>
    cases outcome with
    | error cause => exact explained.imp_right fun failed => Driver.failed_append.mpr (.inl failed)
    | ok result => exact List.mem_append_left _ explained
  | _ => trivial

/-- With the record the script has come to the same with one worker: if a call has failed, the worker
ends with its error. -/
def Tended (Holds : σ → Prop) (Refuses : Error → Prop) (late : Error)
    (entry : Nat → Except Error α → Made) (calls : List Made)
    (noted : Job α × Run (σ × List Made)) (job : Job α) (t : Run σ) : Prop :=
  ∃ new, noted = (job, t.recorded (calls ++ new)) ∧ Alone Holds Refuses t ∧
    Explains late (calls ++ new) t.pool ∧ Adds Refuses (fun cause => job = .done (.error cause)) new ∧
    job.Explained entry late (calls ++ new)

section Working

variable {r : Run σ} {calls : List Made} {work : Nat → Call σ α}
  {entry : Nat → Except Error α → Made}

theorem Tended.after {new : List Made} {noted : Job α × Run (σ × List Made)} {job : Job α} {t : Run σ}
    (adds : Adds Refuses (fun _ => False) new)
    (rest : Tended Holds Refuses late entry (calls ++ new) noted job t) :
    Tended Holds Refuses late entry calls noted job t := by
  obtain ⟨rest, eq, alone, explains, added, explained⟩ := rest
  rw [List.append_assoc] at eq explains explained
  exact ⟨new ++ rest, eq, alone, explains, adds.silent.append added, explained⟩

/-- A worker with a connection ends with the outcome of its call. -/
theorem Alone.works (alone : Alone Holds Refuses r) (explains : Explains late calls r.pool)
    (upholds : ∀ connection, Upholds Holds (work connection)) (enters : Enters entry)
    (index connection : Nat) : Tended Holds Refuses late entry calls
      (pursueWork index (fun connection => (work connection).recorded (entry connection)) connection
        (r.recorded calls))
      (pursueWork index work connection r).1 (pursueWork index work connection r).2 := by
  obtain ⟨outcome, t, plain, noted, next, pool, -⟩ :=
    alone.looks calls (.job index) (upholds connection) (entry connection)
  rw [← pool] at explains
  rw [pursueWork, pursueWork, plain, noted]
  cases outcome with
  | none => exact ⟨[], rfl, next, explains.append [], .nil, trivial⟩
  | some result =>
    dsimp only
    rw [step_recorded]
    refine ⟨_, rfl, next.step _, next.explainsStep (explains.append _) trivial,
      .call (enters.other connection result) fun cause failed => ?_, ?_⟩
    · rw [enters.failure] at failed
      cases result with
      | ok => contradiction
      | error => cases failed; rfl
    · cases result with
      | ok value => exact List.mem_append_right _ List.mem_cons_self
      | error cause =>
        refine .inr (Driver.failed_append.mpr (.inr (Driver.failed_singleton.mpr ?_)))
        exact ⟨enters.other _ _, enters.failure _ _⟩

/-- A worker that waits for a connection ends if it is let down, and works if it has one. -/
theorem Heard.gets (upholds : ∀ connection, Upholds Holds (work connection)) (enters : Enters entry)
    (index call : Nat) {noted : Run (σ × List Made)}
    (heard : Heard Holds Refuses late (LetDown r.pool call) calls noted r) :
    Tended Holds Refuses late entry calls
      (pursueGetting index (fun connection => (work connection).recorded (entry connection)) call noted)
      (pursueGetting index work call r).1 (pursueGetting index work call r).2 := by
  obtain ⟨new, rfl, alone, explains, adds⟩ := heard
  rw [pursueGetting, pursueGetting, recorded_pool]
  cases result : r.pool.result? call with
  | none =>
    refine ⟨new, rfl, alone, explains, adds.mono fun cause down => ?_, trivial⟩
    exact absurd (result.symm.trans down.2) nofun
  | some outcome =>
    cases outcome with
    | error cause =>
      refine ⟨new, rfl, alone, explains, adds.mono fun other down => ?_, ?_⟩
      · cases result.symm.trans down.2
        rfl
      · exact explains.results call cause (mem_of_lookup result)
    | ok connection =>
      have quiet : Adds Refuses (fun _ => False) new :=
        adds.mono fun cause down => absurd (result.symm.trans down.2) nofun
      exact .after quiet (alone.works explains upholds enters index connection)

theorem Alone.tends (alone : Alone Holds Refuses r) (explains : Explains late calls r.pool)
    (upholds : ∀ connection, Upholds Holds (work connection)) (enters : Enters entry) (index : Nat)
    (job : Job α) (explained : job.Explained entry late calls) :
    Tended Holds Refuses late entry calls
      (pursueJob index (fun connection => (work connection).recorded (entry connection)) job
        (r.recorded calls))
      (pursueJob index work job r).1 (pursueJob index work job r).2 := by
  cases job with
  | fresh =>
    have counted := alone.aside r.server alone.holds r.timers r.ended (r.nextCall + 1)
    exact (counted.arrives explains r.nextCall).gets upholds enters index r.nextCall
  | getting call => exact (alone.borrows explains call).gets upholds enters index call
  | working connection => exact alone.works explains upholds enters index connection
  | done outcome =>
    refine ⟨[], by rw [List.append_nil]; rfl, alone, explains.append [], .nil, ?_⟩
    exact explained.append []

end Working

/-! ### All workers -/

/-- With the record the script has come to the same with some workers: if a call has failed, one of
them ends with its error, and who has ended before has the same outcome. -/
def TendedAll (Holds : σ → Prop) (Refuses : Error → Prop) (late : Error)
    (entry : Nat → Except Error α → Made) (calls : List Made)
    (noted : List (Job α) × Run (σ × List Made)) (before after : List (Job α)) (t : Run σ) : Prop :=
  ∃ new, noted = (after, t.recorded (calls ++ new)) ∧ Alone Holds Refuses t ∧
    Explains late (calls ++ new) t.pool ∧ Adds Refuses (fun cause => .done (.error cause) ∈ after) new ∧
    (∀ job ∈ after, job.Explained entry late (calls ++ new)) ∧
    ∀ outcome, .done outcome ∈ before → .done outcome ∈ after

section Rounds

variable {r : Run σ} {calls : List Made} {work : Nat → Call σ α}
  {entry : Nat → Except Error α → Made} (upholds : ∀ connection, Upholds Holds (work connection))
  (enters : Enters entry)

include upholds enters

theorem Alone.tendsAll (jobs : List (Job α)) (index : Nat) (alone : Alone Holds Refuses r)
    (explains : Explains late calls r.pool)
    (explained : ∀ job ∈ jobs, job.Explained entry late calls) :
    TendedAll Holds Refuses late entry calls
      (pursueJobs (fun connection => (work connection).recorded (entry connection)) index jobs
        (r.recorded calls))
      jobs (pursueJobs work index jobs r).1 (pursueJobs work index jobs r).2 := by
  induction jobs generalizing r calls index with
  | nil =>
    exact ⟨[], by rw [List.append_nil]; rfl, alone, explains.append [], .nil, nofun, nofun⟩
  | cons job jobs ih =>
    obtain ⟨new, noted, next, tells, adds, mine⟩ := alone.tends explains upholds enters index job
      (explained job List.mem_cons_self)
    obtain ⟨more, noted', last, tells', adds', others, kept⟩ := ih (index + 1) next tells
      fun other member => (explained other (List.mem_cons_of_mem _ member)).append new
    rw [List.append_assoc] at noted' tells' others
    refine ⟨new ++ more, ?_, last, tells', (adds.mono ?_).append (adds'.mono ?_), ?_, ?_⟩
    · rw [pursueJobs, noted]
      dsimp only
      rw [noted']
      rfl
    · rintro cause same
      exact same ▸ List.mem_cons_self
    · exact fun cause member => List.mem_cons_of_mem _ member
    · refine List.forall_mem_cons.mpr ⟨?_, others⟩
      rw [← List.append_assoc]
      exact mine.append more
    · intro outcome member
      rcases List.mem_cons.mp member with rfl | later
      · exact List.mem_cons_self
      · exact List.mem_cons_of_mem _ (kept outcome later)

theorem Alone.tendsRounds (fuel : Nat) (jobs : List (Job α)) (alone : Alone Holds Refuses r)
    (explains : Explains late calls r.pool)
    (explained : ∀ job ∈ jobs, job.Explained entry late calls) :
    TendedAll Holds Refuses late entry calls
      (pursueAll (fun connection => (work connection).recorded (entry connection)) fuel jobs
        (r.recorded calls))
      jobs (pursueAll work fuel jobs r).1 (pursueAll work fuel jobs r).2 := by
  induction fuel generalizing r calls jobs with
  | zero =>
    refine ⟨[], by rw [List.append_nil]; rfl, alone, explains.append [], .nil, ?_, fun _ => id⟩
    exact fun job member => (explained job member).append []
  | succ fuel ih =>
    obtain ⟨new, noted, next, tells, adds, all, kept⟩ :=
      alone.tendsAll upholds enters jobs 1 explains explained
    rw [pursueAll, pursueAll, noted]
    generalize pursueJobs work 1 jobs r = round at next tells adds all kept ⊢
    dsimp only
    rw [recorded_pool]
    by_cases goesOn : round.1.any (Job.canGoOn round.2.pool) = true
    · rw [if_pos goesOn, if_pos goesOn]
      obtain ⟨more, noted', last, tells', adds', others, kept'⟩ := ih round.1 next tells all
      rw [List.append_assoc] at noted' tells' others
      refine ⟨new ++ more, noted', last, tells', (adds.mono ?_).append adds', others, ?_⟩
      · exact fun cause => kept' _
      · exact fun outcome member => kept' outcome (kept outcome member)
    · rw [if_neg goesOn, if_neg goesOn]
      exact ⟨new, rfl, next, tells, adds, all, kept⟩

/-! ### From the first visit to the last -/

/-- All calls so far were made for these workers: whatever failed is told by a worker, and whatever
the workers tell can be explained. -/
structure Narrates (Refuses : Error → Prop) (late : Error) (entry : Nat → Except Error α → Made)
    (jobs : List (Job α)) (s : State) (calls : List Made) : Prop where
  explains : Explains late calls s
  explained : ∀ job ∈ jobs, job.Explained entry late calls
  adds : Adds Refuses (fun cause => .done (.error cause) ∈ jobs) calls

/-- Workers have come to the same with the record and without, and the record tells why. -/
theorem recording_workers (count : Nat) : Recording Holds Refuses
    (fun jobs r =>
      let (jobs, r) := pursueAll work (count + 1) jobs r
      match jobs.mapM Job.outcome? with
      | some outcomes => (.inr outcomes, r)
      | none => (.inl jobs, r))
    (fun jobs r =>
      let (jobs, r) :=
        pursueAll (fun connection => (work connection).recorded (entry connection)) (count + 1) jobs r
      match jobs.mapM Job.outcome? with
      | some outcomes => (.inr outcomes, r)
      | none => (.inl jobs, r))
    (Narrates Refuses late entry) (fun outcomes => Narrates Refuses late entry (outcomes.map .done)) where
  polled := by
    intro jobs r calls alone narrates
    obtain ⟨new, noted, next, explains, adds, explained, kept⟩ := alone.tendsRounds upholds enters
      (count + 1) jobs narrates.explains narrates.explained
    dsimp only
    rw [noted]
    generalize pursueAll work (count + 1) jobs r = outcome at next explains adds explained kept ⊢
    obtain ⟨after, t⟩ := outcome
    have narrated : Narrates Refuses late entry after t.pool (calls ++ new) :=
      ⟨explains, explained, (narrates.adds.mono fun cause => kept _).append adds⟩
    dsimp only at next ⊢
    cases ended : after.mapM Job.outcome? with
    | none => exact ⟨new, _, t, rfl, rfl, next, narrated⟩
    | some outcomes =>
      rw [eq_map_done ended] at narrated
      exact ⟨new, _, t, rfl, rfl, next, narrated⟩
  closed := fun jobs s calls new narrates adds =>
    ⟨narrates.explains.append new, fun job member => (narrates.explained job member).append new,
      narrates.adds.append adds.silent⟩
  retired := fun jobs s calls connection closed narrates =>
    ⟨narrates.explains.harmless trivial, narrates.explained, narrates.adds⟩
  ticked := fun jobs s calls span narrates =>
    ⟨narrates.explains.harmless trivial, narrates.explained, narrates.adds⟩

/-- Workers that share a new pool: the record begins with them. -/
theorem Alone.workers (alone : Alone Holds Refuses r) (running : r.pool.shut = false)
    (patience : r.pool.config.timedOut = late) (untold : r.pool.results = []) (count : Nat) :
    ∃ calls outcome t, r.workers count work = (outcome, t) ∧
      (r.recorded []).workers count (fun connection => (work connection).recorded (entry connection)) =
        (outcome, t.recorded calls) ∧ Alone Holds Refuses t ∧
      outcome.elim (∃ jobs, Narrates Refuses late entry jobs t.pool calls)
        (fun outcomes => Narrates Refuses late entry (outcomes.map .done) t.pool calls) := by
  refine (recording_workers upholds enters count).drives (4 * count) alone ⟨⟨running, patience, ?_⟩, ?_, .nil⟩
  · intro call cause member
    rw [untold] at member
    contradiction
  · intro job member
    rw [(List.mem_replicate.mp member).2]
    trivial

end Rounds

end SqlProbe.Pool.Run
