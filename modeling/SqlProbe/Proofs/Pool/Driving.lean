import SqlProbe.Proofs.Pool.Scheduling

/-!
# Driving a script

Between two visits to a script, connections that came back are closed, and time passes. All of this
leaves the waits of the script alone and makes the load smaller. So a script comes to its end if it
never adds more to the load than it has reason to, and never waits for what does not come.
-/

namespace SqlProbe.Pool

variable {σ α β : Type}

namespace Run

/-! ### Closing connections that came back -/

/-- What the task of a connection that is being closed does: it begins to wait, or notes how the
closing has ended. -/
structure Tends (r t : Run σ) (connection : Nat) : Prop where
  scheduled : Scheduled t
  load : t.load < r.load
  same : t.driver = r.driver ∧ t.target = r.target ∧ t.nextCall = r.nextCall
  waits : ∀ wait, wait.task = .script →
    t.waitsFor wait = r.waitsFor wait ∧ (wait ∈ t.ended ↔ wait ∈ r.ended)
  script : .script ∈ r.ready → .script ∈ t.ready
  pool : t.pool = r.pool ∧ t.server = r.server ∨
    t.server = ((r.driver.close connection).finish r.server).2 ∧
      t.pool = r.pool.step (.retired connection (r.driver.isClosed connection t.server)) ∧
      ∀ wait ∈ woken r.pool t.pool, wait.task ∈ t.ready

theorem closings_retired {s : State} {connection : Nat} (closing : connection ∈ s.closings)
    (closed : Bool) : (s.step (.retired connection closed)).closings = s.closings.erase connection := by
  rw [State.step, if_pos (List.contains_iff_mem.mpr closing)]
  cases closed <;> rfl

section Closing

variable {r t : Run σ} {connection : Nat} {ready : List Task}

/-- The task of a connection goes on only while that is being closed. -/
theorem Scheduled.mem_closings (scheduled : Scheduled r)
    (first : r.ready = .closing connection :: ready) : connection ∈ r.pool.closings := by
  have member : .closing connection ∈ r.ready := first ▸ List.mem_cons_self
  rcases scheduled.tasks _ member with script | ⟨other, closing, same⟩
  · contradiction
  · cases same
    exact closing

/-- A task that goes on is not ready any more. -/
theorem Scheduled.not_mem (scheduled : Scheduled r)
    (first : r.ready = .closing connection :: ready) : .closing connection ∉ ready := by
  have once := scheduled.ready connection
  rw [first, List.count_cons_self] at once
  exact List.count_eq_zero.mp (Nat.le_zero.mp (Nat.le_of_succ_le_succ once))

theorem Scheduled.tends_waiting (scheduled : Scheduled r)
    (first : r.ready = .closing connection :: ready)
    (since : r.waitsFor (.closing connection) = true) : Tends r { r with ready } connection := by
  refine ⟨⟨scheduled.background, scheduled.due, scheduled.count_le first, scheduled.once, ?_, ?_,
    scheduled.timers⟩, ?_, ⟨rfl, rfl, rfl⟩, fun _ _ => ⟨rfl, .rfl⟩, ?_, .inl ⟨rfl, rfl⟩⟩
  · intro task member
    exact scheduled.tasks task (first ▸ List.mem_cons_of_mem _ member)
  · intro other closing
    rcases scheduled.closing other closing with ready | waits
    · rw [first] at ready
      rcases List.mem_cons.mp ready with same | later
      · cases same
        exact .inr since
      · exact .inl later
    · exact .inr waits
  · simp only [load, first, List.length_cons]
    change 3 * r.timers.length + ready.length + _ + 3 * r.unbegun r.pool.closings < _
    omega
  · rw [first]
    exact fun member => (List.mem_cons.mp member).resolve_left (by simp)

/-- The wait for the end of a closing is the only one of its kind. -/
theorem Scheduled.tends_begins (scheduled : Scheduled r)
    (first : r.ready = .closing connection :: ready) (due : Nat)
    (new : ¬r.Begun (.closing connection)) : Tends r
      { r with ready, timers := r.timers ++ [⟨.closing connection, some due⟩] } connection := by
  have closing := scheduled.mem_closings first
  let t : Run σ := { r with ready, timers := r.timers ++ [⟨.closing connection, some due⟩] }
  have waits (wait : Wait) :
      t.waitsFor wait = (r.waitsFor wait || decide (.closing connection = wait)) := by
    simp [t, waitsFor]
  have begun (wait : Wait) : r.Begun wait → t.Begun wait := by
    rintro (waiting | ended)
    · exact .inl (by rw [waits, waiting, Bool.true_or])
    · exact .inr ended
  refine ⟨⟨scheduled.background, ?_, scheduled.count_le first, scheduled.once, ?_, ?_, ?_⟩, ?_,
    ⟨rfl, rfl, rfl⟩, ?_, ?_, .inl ⟨rfl, rfl⟩⟩
  · intro timer member
    rcases List.mem_append.mp member with before | last
    · exact scheduled.due timer before
    · rw [List.mem_singleton.mp last]
      exact Option.some_ne_none _
  · intro task member
    exact scheduled.tasks task (first ▸ List.mem_cons_of_mem _ member)
  · intro other member
    change _ ∨ t.waitsFor _ = true
    rw [waits]
    rcases scheduled.closing other member with ready | waiting
    · rw [first] at ready
      rcases List.mem_cons.mp ready with same | later
      · cases same
        exact .inr (by simp)
      · exact .inl later
    · exact .inr (by simp [waiting])
  · intro other waiting
    change t.waitsFor _ = true at waiting
    rw [waits, Bool.or_eq_true] at waiting
    rcases waiting with before | now
    · exact scheduled.timers other before
    · cases of_decide_eq_true now
      exact closing
  · have fewer : t.unbegun r.pool.closings < r.unbegun r.pool.closings :=
      unbegun_lt closing new (.inl (by rw [waits]; simp)) fun other => begun (.closing other)
    simp only [load, first, List.length_cons, List.length_append]
    change 3 * (r.timers.length + 1) + ready.length + _ + 3 * t.unbegun r.pool.closings < _
    omega
  · intro wait script
    refine ⟨?_, .rfl⟩
    change t.waitsFor wait = _
    rw [waits, decide_eq_false, Bool.or_false]
    rintro rfl
    contradiction
  · rw [first]
    exact fun member => (List.mem_cons.mp member).resolve_left (by simp)

/-- The wait for the end of a closing is over, and its task is not ready any more. -/
structure Over (r t : Run σ) (connection : Nat) (ready : List Task) : Prop where
  background : t.background = r.background
  pool : t.pool = r.pool
  ready : t.ready = ready
  timers : t.timers.Sublist r.timers
  waits : ∀ wait, wait ≠ .closing connection →
    t.waitsFor wait = r.waitsFor wait ∧ (wait ∈ t.ended ↔ wait ∈ r.ended)
  ended : t.waitsFor (.closing connection) = false

theorem over_forget (r : Run σ) (connection : Nat) (ready : List Task) (server : σ) :
    Over r { (Run.forget { r with ready } [.closing connection]) with server } connection ready where
  background := rfl
  pool := rfl
  ready := rfl
  timers := List.filter_sublist
  waits := by
    intro wait other
    have kept : wait ∉ [Wait.closing connection] := by simpa using other
    exact ⟨waitsFor_forget (r := { r with ready }) kept, mem_ended_forget (r := { r with ready }) kept⟩
  ended := by
    rw [Bool.eq_false_iff, Ne, waitsFor_iff]
    rintro ⟨timer, member, same⟩
    have kept := (List.mem_filter.mp member).2
    simp [same] at kept

/-- A connection that is still being closed is another one. -/
theorem Scheduled.other_of_mem_erase (scheduled : Scheduled r) {other : Nat}
    (member : other ∈ r.pool.closings.erase connection) :
    other ∈ r.pool.closings ∧ Wait.closing other ≠ .closing connection := by
  obtain ⟨differ, before⟩ := scheduled.once.mem_erase_iff.mp member
  exact ⟨before, fun same => differ (Wait.closing.inj same)⟩

/-- When a closing has ended, its connection is being closed no more. -/
theorem Scheduled.retired (scheduled : Scheduled r) (first : r.ready = .closing connection :: ready)
    (past : Over r t connection ready) (closed : Bool) :
    Scheduled (t.step (.retired connection closed)) := by
  have closing := scheduled.mem_closings first
  have erased := closings_retired closing closed
  obtain ⟨more, wakes, eq⟩ := exists_step (past.background.trans scheduled.background)
    (.retired connection closed)
  rw [past.pool, past.ready] at wakes
  rw [eq, past.pool, past.ready]
  refine ⟨past.background.trans scheduled.background, ?_,
    fun other => wakes.count_le (scheduled.count_le first other), ?_, ?_, ?_, ?_⟩
  · exact fun timer member => scheduled.due timer (past.timers.subset member)
  · change (r.pool.step _).closings.Nodup
    rw [erased]
    exact scheduled.once.erase connection
  · intro task member
    change _ ∨ ∃ other ∈ (r.pool.step _).closings, _
    rw [erased]
    rcases List.mem_append.mp member with before | later
    · refine (scheduled.tasks task (first ▸ List.mem_cons_of_mem _ before)).imp_right ?_
      rintro ⟨other, among, same⟩
      refine ⟨other, (List.mem_erase_of_ne ?_).mpr among, same⟩
      rintro rfl
      exact scheduled.not_mem first (same ▸ before)
    · obtain ⟨wait, among, rfl⟩ := wakes.among task later
      have fewer : (r.pool.step (.retired connection closed)).closings ⊆ r.pool.closings :=
        erased ▸ List.erase_subset
      exact .inl (task_of_mem_woken_of_subset fewer among)
  · intro other member
    change other ∈ (r.pool.step _).closings at member
    rw [erased] at member
    obtain ⟨before, differ⟩ := scheduled.other_of_mem_erase member
    change _ ∨ t.waitsFor _ = true
    rw [(past.waits _ differ).1]
    refine (scheduled.closing other before).imp_left fun among => List.mem_append_left _ ?_
    rw [first] at among
    exact (List.mem_cons.mp among).resolve_left fun same => differ (congrArg _ (Task.closing.inj same))
  · intro other waiting
    change other ∈ (r.pool.step _).closings
    change t.waitsFor _ = true at waiting
    rw [erased]
    have differ : other ≠ connection := by
      rintro rfl
      exact absurd (past.ended.symm.trans waiting) nofun
    rw [(past.waits _ fun same => differ (Wait.closing.inj same)).1] at waiting
    exact (List.mem_erase_of_ne differ).mpr (scheduled.timers other waiting)

/-- The end of a closing makes up for what it lets the script do. -/
theorem Scheduled.load_retired (scheduled : Scheduled r)
    (first : r.ready = .closing connection :: ready) (past : Over r t connection ready)
    (closed : Bool) : (t.step (.retired connection closed)).load < r.load := by
  have closing := scheduled.mem_closings first
  have erased := closings_retired closing closed
  obtain ⟨more, wakes, eq⟩ := exists_step (past.background.trans scheduled.background)
    (.retired connection closed)
  rw [past.pool] at wakes
  have fewer : (r.pool.step (.retired connection closed)).closings ⊆ r.pool.closings :=
    erased ▸ List.erase_subset
  have few := wakes.length_le_one fun _ => task_of_mem_woken_of_subset fewer
  have timers := past.timers.length_le
  have unbegun : t.unbegun (r.pool.closings.erase connection) ≤ r.unbegun r.pool.closings := by
    refine Nat.le_trans (unbegun_mono fun other member => ?_) List.erase_sublist.countP_le
    obtain ⟨waits, ended⟩ := past.waits _ (scheduled.other_of_mem_erase member).2
    rw [Begun, Begun, waits, ended]
    exact id
  have one := List.length_erase_of_mem closing
  have some := List.length_pos_of_mem closing
  rw [eq, past.pool, past.ready]
  simp only [load, first, List.length_cons, List.length_append]
  change 3 * t.timers.length + (ready.length + more.length) + (r.pool.step _).closings.length +
    3 * t.unbegun (r.pool.step _).closings < _
  rw [erased]
  omega

theorem Scheduled.tends_ends (scheduled : Scheduled r)
    (first : r.ready = .closing connection :: ready) (server : σ)
    (closed : server = ((r.driver.close connection).finish r.server).2) :
    Tends r (Run.step { (Run.forget { r with ready } [.closing connection]) with server }
      (.retired connection (r.driver.isClosed connection server))) connection := by
  have past := over_forget r connection ready server
  have scheduled' := scheduled.retired first past (r.driver.isClosed connection server)
  have load := scheduled.load_retired first past (r.driver.isClosed connection server)
  obtain ⟨more, wakes, eq⟩ := exists_step (past.background.trans scheduled.background)
    (.retired connection (r.driver.isClosed connection server))
  rw [eq] at scheduled' load ⊢
  refine ⟨scheduled', load, ⟨rfl, rfl, rfl⟩, ?_, ?_, .inr ⟨closed, rfl, wakes.all⟩⟩
  · intro wait script
    exact past.waits wait (by rintro rfl; contradiction)
  · rw [first]
    intro member
    exact List.mem_append_left _ ((List.mem_cons.mp member).resolve_left nofun)

theorem Scheduled.tends (scheduled : Scheduled r) (first : r.ready = .closing connection :: ready)
    (timely : Timely (r.driver.close connection)) :
    Tends r ({ r with ready }.perform (.closing connection)) connection := by
  have awaited := awaits { r with ready } (.closing connection) timely
  unfold perform pursueClosing
  dsimp only at awaited ⊢
  generalize await { r with ready } (.closing connection) (r.driver.close connection) = outcome
    at awaited ⊢
  cases awaited with
  | waiting since => exact scheduled.tends_waiting first since
  | begins due new => exact scheduled.tends_begins first due new
  | ends => exact scheduled.tends_ends first _ rfl

end Closing

/-! ### Time -/

/-- What the end of the next waits does to a run. -/
structure Moves (r t : Run σ) : Prop where
  scheduled : Scheduled t
  load : t.load < r.load
  same : t.driver = r.driver ∧ t.target = r.target ∧ t.nextCall = r.nextCall ∧ t.server = r.server
  pool : ∃ span, t.pool = r.pool.step (.tick span)
  begun : ∀ wait, r.Begun wait → t.Begun wait
  waits : .script ∈ t.ready ∨
    ∀ wait, wait.task = .script → r.waitsFor wait = true → t.waitsFor wait = true

/-- The waits that end at a time. -/
def dueAt (r : Run σ) (time : Nat) : List Wait :=
  (r.timers.filter fun timer => timer.due = some time).map Timer.wait

/-- The run at a later time, with these tasks. -/
def later (r : Run σ) (time : Nat) (ready : List Task) : Run σ :=
  { r with
    timers := r.timers.filter fun timer => timer.due ≠ some time
    ended := r.ended ++ r.dueAt time
    pool := r.pool.step (.tick (time - r.pool.now))
    ready }

section Time

variable {r : Run σ} {time : Nat} {ready : List Task} {wait : Wait}

theorem mem_dueAt {timer : Timer} (member : timer ∈ r.timers) (due : timer.due = some time) :
    timer.wait ∈ r.dueAt time :=
  List.mem_map_of_mem (List.mem_filter.mpr ⟨member, decide_eq_true due⟩)

theorem exists_nextDue (due : ∀ timer ∈ r.timers, timer.due ≠ none) (waits : r.timers ≠ []) :
    ∃ time, r.nextDue = some time ∧ r.dueAt time ≠ [] := by
  obtain ⟨timer, member⟩ := List.exists_mem_of_ne_nil _ waits
  obtain ⟨time, at_⟩ := Option.ne_none_iff_exists'.mp (due timer member)
  cases next : r.nextDue with
  | none =>
    have none := List.min?_eq_none_iff.mp next
    have among : time ∈ r.timers.filterMap Timer.due := List.mem_filterMap.mpr ⟨timer, member, at_⟩
    rw [none] at among
    contradiction
  | some time =>
    obtain ⟨timer, member, at_⟩ := List.mem_filterMap.mp (List.min?_mem next)
    exact ⟨time, rfl, List.ne_nil_of_mem (mem_dueAt member at_)⟩

/-- The script goes on first. -/
theorem perm_front (ready : List Task) :
    (ready.filter (· = .script) ++ ready.filter (· ≠ .script)).Perm ready := by
  have parts := List.filter_append_perm (fun task => decide (task = Task.script)) ready
  simpa only [ne_eq, decide_not] using parts

theorem Wakes.perm {waits : List Wait} {more : List Task} (wakes : Wakes [] waits more)
    (perm : ready.Perm more) : Wakes [] waits ready where
  among := fun task member => wakes.among task (perm.subset member)
  all := fun wait member => perm.symm.subset (wakes.all wait member)
  new := fun _ _ => List.not_mem_nil
  nodup := perm.nodup_iff.mpr wakes.nodup

/-- Only the tasks of waits that end, and whom the time concerns, can go on. -/
theorem exists_moveTo (quiet : r.background = []) (still : r.ready = []) (time : Nat) :
    ∃ ready, Wakes [] (woken r.pool (r.pool.step (.tick (time - r.pool.now))) ++ r.dueAt time) ready ∧
      r.moveTo time = r.later time ready := by
  obtain ⟨more, wakes, eq⟩ := exists_wakes (r := r.later time []) quiet
    (woken r.pool (r.pool.step (.tick (time - r.pool.now))) ++ r.dueAt time)
  refine ⟨_, wakes.perm (perm_front more), ?_⟩
  have moved : r.moveTo time = (fun t : Run σ => { t with
      ready := t.ready.filter (· = .script) ++ t.ready.filter (· ≠ .script) })
      ((woken r.pool (r.pool.step (.tick (time - r.pool.now))) ++ r.dueAt time).foldl
        (fun r wait => r.wake (r.taskOf wait)) (r.later time [])) := by
    rw [List.foldl_append, later, ← still]
    rfl
  rw [moved, eq]
  rfl

/-- A wait goes on, or its end comes. -/
theorem waitsFor_later (waiting : r.waitsFor wait = true) (time : Nat) (ready : List Task) :
    (r.later time ready).waitsFor wait = true ∨ wait ∈ r.dueAt time := by
  obtain ⟨timer, member, same⟩ := waitsFor_iff.mp waiting
  by_cases now : timer.due = some time
  · exact .inr (same ▸ mem_dueAt member now)
  · refine .inl (waitsFor_iff.mpr ⟨timer, List.mem_filter.mpr ⟨member, ?_⟩, same⟩)
    exact decide_eq_true now

theorem begun_later (begun : r.Begun wait) (time : Nat) (ready : List Task) :
    (r.later time ready).Begun wait := by
  rcases begun with waiting | ended
  · exact (waitsFor_later waiting time ready).imp_right (List.mem_append_right _)
  · exact .inr (List.mem_append_left _ ended)

/-- A wait that ends has begun. -/
theorem waitsFor_of_mem_dueAt (member : wait ∈ r.dueAt time) : r.waitsFor wait = true := by
  obtain ⟨timer, kept, same⟩ := List.mem_map.mp member
  exact waitsFor_iff.mpr ⟨timer, List.mem_of_mem_filter kept, same⟩

theorem Scheduled.later (scheduled : Scheduled r) (still : r.ready = [])
    (wakes : Wakes [] (woken r.pool (r.pool.step (.tick (time - r.pool.now))) ++ r.dueAt time) ready) :
    Scheduled (r.later time ready) where
  background := scheduled.background
  due := fun timer member => scheduled.due timer (List.mem_of_mem_filter member)
  ready := fun connection => List.nodup_iff_count_le_one.mp wakes.nodup (.closing connection)
  once := scheduled.once
  tasks := by
    intro task member
    obtain ⟨wait, among, rfl⟩ := wakes.among task member
    rcases List.mem_append.mp among with early | late
    · exact .inl (task_of_mem_woken_of_subset (List.Subset.refl _) early)
    · cases wait with
      | closing connection =>
        exact .inr ⟨connection, scheduled.timers connection (waitsFor_of_mem_dueAt late), rfl⟩
      | _ => exact .inl rfl
  closing := by
    intro connection closing
    have waiting := (scheduled.closing connection closing).resolve_left (by rw [still]; nofun)
    refine (waitsFor_later waiting time ready).elim .inr fun ends => .inl ?_
    exact wakes.all _ (List.mem_append_right _ ends)
  timers := by
    intro connection waiting
    obtain ⟨timer, member, same⟩ := waitsFor_iff.mp waiting
    exact scheduled.timers connection
      (waitsFor_iff.mpr ⟨timer, List.mem_of_mem_filter member, same⟩)

/-- Each wait that ends makes up for what its task can do. -/
theorem load_later (still : r.ready = []) (ends : r.dueAt time ≠ [])
    (wakes : Wakes [] (woken r.pool (r.pool.step (.tick (time - r.pool.now))) ++ r.dueAt time) ready) :
    (r.later time ready).load < r.load := by
  have parts : (r.dueAt time).length + (r.later time ready).timers.length = r.timers.length := by
    have both := (List.filter_append_perm (fun timer => decide (timer.due = some time))
      r.timers).length_eq
    rw [List.length_append] at both
    simpa only [dueAt, later, List.length_map, ne_eq, decide_not] using both
  have few : ready.length ≤ (r.dueAt time).length + 1 := by
    have bound := wakes.length_le (.script :: (r.dueAt time).map Wait.task) ?_
    · rwa [List.length_cons, List.length_map] at bound
    · intro wait member
      rcases List.mem_append.mp member with early | late
      · rw [task_of_mem_woken_of_subset (List.Subset.refl _) early]
        exact List.mem_cons_self
      · exact List.mem_cons_of_mem _ (List.mem_map_of_mem late)
  have unbegun : (r.later time ready).unbegun r.pool.closings ≤ r.unbegun r.pool.closings :=
    unbegun_mono fun _ _ begun => begun_later begun time ready
  have some := List.length_pos_iff.mpr ends
  rw [load, load, still]
  change 3 * (r.later time ready).timers.length + ready.length + r.pool.closings.length +
    3 * (r.later time ready).unbegun r.pool.closings < _
  rw [List.length_nil]
  omega

theorem Scheduled.moves (scheduled : Scheduled r) (still : r.ready = []) (waits : r.timers ≠ []) :
    ∃ time, r.nextDue = some time ∧ Moves r (r.moveTo time) := by
  obtain ⟨time, next, ends⟩ := exists_nextDue scheduled.due waits
  obtain ⟨ready, wakes, eq⟩ := exists_moveTo scheduled.background still time
  refine ⟨time, next, ?_⟩
  rw [eq]
  refine ⟨scheduled.later still wakes, load_later still ends wakes, ⟨rfl, rfl, rfl, rfl⟩, ⟨_, rfl⟩,
    fun wait begun => begun_later begun time ready, ?_⟩
  by_cases script : ∃ wait ∈ r.dueAt time, wait.task = .script
  · obtain ⟨wait, member, script⟩ := script
    exact .inl (script ▸ wakes.all wait (List.mem_append_right _ member))
  · refine .inr fun wait task waiting => ?_
    refine (waitsFor_later waiting time ready).resolve_right fun member => ?_
    exact script ⟨wait, member, task⟩

end Time

/-! ### Scripts that come to their end -/

/-- A script that comes to its end: whatever goes on keeps what holds of the script and makes its
cost smaller, and as long as it waits time can go on. -/
structure Progress (poll : α → Run σ → (α ⊕ β) × Run σ) (Holds : α → Run σ → Prop)
    (cost : α → Run σ → Nat) (Ends : β → Run σ → Prop) : Prop where
  polled : ∀ script r ready, Holds script r → r.ready = .script :: ready →
    (∃ next t, poll script { r with ready } = (.inl next, t) ∧ Holds next t ∧
        cost next t < cost script r) ∨
      ∃ value t, poll script { r with ready } = (.inr value, t) ∧ Ends value t
  performed : ∀ script r task ready, Holds script r → r.ready = task :: ready → task ≠ .script →
    Holds script ({ r with ready }.perform task) ∧
      cost script ({ r with ready }.perform task) < cost script r
  moved : ∀ script r, Holds script r → r.ready = [] → ∃ time, r.nextDue = some time ∧
    Holds script (r.moveTo time) ∧ cost script (r.moveTo time) < cost script r

theorem Progress.ends {poll : α → Run σ → (α ⊕ β) × Run σ} {Holds : α → Run σ → Prop}
    {cost : α → Run σ → Nat} {Ends : β → Run σ → Prop} (progress : Progress poll Holds cost Ends)
    {fuel : Nat} {script : α} {r : Run σ} (holds : Holds script r) (enough : cost script r < fuel) :
    ∃ value t, driveFor poll fuel script r = (some value, t) ∧ Ends value t := by
  induction fuel generalizing script r with
  | zero => exact absurd enough (Nat.not_lt_zero _)
  | succ fuel ih =>
    rw [driveFor]
    split
    · next ready first =>
      rcases progress.polled script r ready holds first with
        ⟨next, t, polled, kept, less⟩ | ⟨value, t, polled, ends⟩
      · rw [polled]
        exact ih kept (by omega)
      · rw [polled]
        exact ⟨value, t, rfl, ends⟩
    · next task ready other first =>
      obtain ⟨kept, less⟩ := progress.performed script r task ready holds first other
      exact ih kept (by omega)
    · next still =>
      obtain ⟨time, due, kept, less⟩ := progress.moved script r holds still
      rw [due]
      exact ih kept (by omega)

end Run

end SqlProbe.Pool
