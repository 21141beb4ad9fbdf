import SqlProbe.Pool.Run
import Mathlib.Data.List.Nodup
import Mathlib.Data.List.Perm.Subperm

/-!
# Tasks and waits

What holds between the tasks of a run, whatever the script is and as long as nobody borrows in the
background. Every wait comes to its end; every connection that is being closed has a task that can go
on or waits; and what is still to be done for the waits that have begun and the connections that are
being closed is bounded by a number, the load.
-/

namespace SqlProbe.Pool

variable {σ α β : Type}

/-- A driver call that has no answer and does nothing before its end, and comes to it. -/
structure Timely (call : Call σ α) : Prop where
  atOnce : ∀ server, call.atOnce server = none
  start : call.start = id
  span : ∀ server, call.span server ≠ none

/-- The task that a wait belongs to while nobody borrows in the background. -/
def Wait.task : Wait → Task
  | closing connection => .closing connection
  | _ => .script

namespace Run

/-- The wait has begun, and its end has not been noticed yet. -/
def Begun (r : Run σ) (wait : Wait) : Prop := r.waitsFor wait = true ∨ wait ∈ r.ended

instance (r : Run σ) (wait : Wait) : Decidable (r.Begun wait) :=
  inferInstanceAs (Decidable (_ ∨ _))

/-! ### Driver calls -/

section Calls

variable {r : Run σ} {wait other : Wait}

theorem waitsFor_iff : r.waitsFor wait = true ↔ ∃ timer ∈ r.timers, timer.wait = wait := by
  simp [waitsFor]

theorem waitsFor_forget {waits : List Wait} (kept : wait ∉ waits) :
    (r.forget waits).waitsFor wait = r.waitsFor wait := by
  rw [Bool.eq_iff_iff, waitsFor_iff, waitsFor_iff]
  constructor
  · rintro ⟨timer, member, same⟩
    exact ⟨timer, List.mem_of_mem_filter member, same⟩
  · rintro ⟨timer, member, same⟩
    refine ⟨timer, List.mem_filter.mpr ⟨member, ?_⟩, same⟩
    simpa [same] using kept

theorem mem_ended_forget {waits : List Wait} (kept : wait ∉ waits) :
    wait ∈ (r.forget waits).ended ↔ wait ∈ r.ended := by
  simp [forget, kept]

theorem begun_forget {waits : List Wait} (kept : wait ∉ waits) :
    (r.forget waits).Begun wait ↔ r.Begun wait := by
  rw [Begun, waitsFor_forget kept, mem_ended_forget kept, Begun]

/-- There is nothing to forget about a wait that has not begun. -/
theorem forget_of_not_begun (new : ¬r.Begun wait) : r.forget [wait] = r := by
  rw [Begun, not_or, waitsFor_iff] at new
  have timers : (r.timers.filter fun timer => !([wait].contains timer.wait)) = r.timers := by
    refine List.filter_eq_self.mpr fun timer member => ?_
    have other : timer.wait ≠ wait := fun same => new.1 ⟨timer, member, same⟩
    simpa using other
  have ended : (r.ended.filter fun other => !([wait].contains other)) = r.ended := by
    refine List.filter_eq_self.mpr fun other member => ?_
    have differ : other ≠ wait := fun same => new.2 (same ▸ member)
    simpa using differ
  rw [forget, timers, ended]

/-- How it can go when a driver call is started or looked after. -/
inductive Awaits (r : Run σ) (wait : Wait) (call : Call σ α) :
    Option (Except Error α) × Run σ → Prop
  | waiting (since : r.waitsFor wait = true) : Awaits r wait call (none, r)
  | begins (due : Nat) (new : ¬r.Begun wait) :
      Awaits r wait call (none, { r with timers := r.timers ++ [⟨wait, some due⟩] })
  | ends : Awaits r wait call (some (call.finish r.server).1,
      { r.forget [wait] with server := (call.finish r.server).2 })

theorem awaits (r : Run σ) (wait : Wait) {call : Call σ α} (timely : Timely call) :
    Awaits r wait call (r.await wait call) := by
  unfold await
  split
  · exact .ends
  split
  · next since => exact .waiting since
  · next unended unwaited =>
    have new : ¬r.Begun wait := by
      rw [Begun, not_or]
      exact ⟨unwaited, by simpa using unended⟩
    have started : { r with server := call.start r.server } = r := by rw [timely.start]; rfl
    rw [timely.atOnce]
    dsimp only
    rw [started, timely.start, id]
    split
    · have done : Awaits r wait call _ := .ends
      rwa [forget_of_not_begun new] at done
    · obtain ⟨span, eq⟩ := Option.ne_none_iff_exists'.mp (timely.span r.server)
      rw [eq]
      exact .begins (r.pool.now + span) new

end Calls

/-! ### Waking tasks -/

/-- Tasks have been added behind those that can go on: some of those that the waits belong to, none
of them twice, so that all of them can go on. -/
structure Wakes (ready : List Task) (waits : List Wait) (more : List Task) : Prop where
  among : ∀ task ∈ more, ∃ wait ∈ waits, task = wait.task
  all : ∀ wait ∈ waits, wait.task ∈ ready ++ more
  new : ∀ task ∈ more, task ∉ ready
  nodup : more.Nodup

namespace Wakes

variable {ready more : List Task} {waits : List Wait}

theorem length_le (wakes : Wakes ready waits more) (tasks : List Task)
    (few : ∀ wait ∈ waits, wait.task ∈ tasks) : more.length ≤ tasks.length := by
  refine (List.subperm_of_subset wakes.nodup ?_).length_le
  intro task member
  obtain ⟨wait, among, rfl⟩ := wakes.among task member
  exact few wait among

theorem length_le_one (wakes : Wakes ready waits more)
    (scripts : ∀ wait ∈ waits, wait.task = .script) : more.length ≤ 1 :=
  wakes.length_le [.script] fun wait member => by simp [scripts wait member]

/-- No task is ready twice because of it. -/
theorem count_le (wakes : Wakes ready waits more) {task : Task} (once : ready.count task ≤ 1) :
    (ready ++ more).count task ≤ 1 := by
  rw [List.count_append]
  by_cases member : task ∈ more
  · rw [List.count_eq_zero.mpr (wakes.new task member), Nat.zero_add]
    exact List.nodup_iff_count_le_one.mp wakes.nodup task
  · rwa [List.count_eq_zero.mpr member]

end Wakes

section Waking

variable {r : Run σ}

theorem taskOf_eq (quiet : r.background = []) (wait : Wait) : r.taskOf wait = wait.task := by
  cases wait <;> simp [taskOf, quiet, Wait.task]

theorem exists_wakes (quiet : r.background = []) (waits : List Wait) :
    ∃ more, Wakes r.ready waits more ∧
      waits.foldl (fun r wait => r.wake (r.taskOf wait)) r = { r with ready := r.ready ++ more } := by
  induction waits generalizing r with
  | nil =>
    refine ⟨[], ⟨nofun, nofun, nofun, List.nodup_nil⟩, ?_⟩
    rw [List.append_nil]
    rfl
  | cons wait waits ih =>
    rw [List.foldl_cons, taskOf_eq quiet, wake]
    split
    · next already =>
      obtain ⟨more, wakes, eq⟩ := ih quiet
      refine ⟨more, ⟨?_, ?_, wakes.new, wakes.nodup⟩, eq⟩
      · intro task member
        obtain ⟨other, among, same⟩ := wakes.among task member
        exact ⟨other, List.mem_cons_of_mem _ among, same⟩
      · intro other member
        rcases List.mem_cons.mp member with rfl | later
        · exact List.mem_append_left _ (List.contains_iff_mem.mp already)
        · exact wakes.all other later
    · next new =>
      obtain ⟨more, wakes, eq⟩ := ih (r := { r with ready := r.ready ++ [wait.task] }) quiet
      refine ⟨wait.task :: more, ⟨?_, ?_, ?_, ?_⟩, ?_⟩
      · intro task member
        rcases List.mem_cons.mp member with rfl | later
        · exact ⟨wait, List.mem_cons_self, rfl⟩
        · obtain ⟨other, among, same⟩ := wakes.among task later
          exact ⟨other, List.mem_cons_of_mem _ among, same⟩
      · intro other member
        rcases List.mem_cons.mp member with rfl | later
        · exact List.mem_append_right _ List.mem_cons_self
        · rw [List.append_cons]
          exact wakes.all other later
      · intro task member before
        rcases List.mem_cons.mp member with rfl | later
        · exact new (List.contains_iff_mem.mpr before)
        · exact wakes.new task later (List.mem_append_left _ before)
      · refine List.nodup_cons.mpr ⟨fun later => ?_, wakes.nodup⟩
        exact wakes.new _ later (List.mem_append_right _ List.mem_cons_self)
      · rw [eq, List.append_assoc]
        rfl

theorem exists_step (quiet : r.background = []) (event : Event) :
    ∃ more, Wakes r.ready (woken r.pool (r.pool.step event)) more ∧
      r.step event = { r with pool := r.pool.step event, ready := r.ready ++ more } :=
  exists_wakes (r := { r with pool := r.pool.step event }) quiet _

theorem pool_step (quiet : r.background = []) (event : Event) :
    (r.step event).pool = r.pool.step event := by
  obtain ⟨_, _, eq⟩ := exists_step quiet event
  rw [eq]

/-- A connection that begins to be closed gives its task something to do. -/
theorem mem_woken_closing {s t : State} {connection : Nat} (new : connection ∉ s.closings)
    (closing : connection ∈ t.closings) : .closing connection ∈ woken s t := by
  refine List.mem_append_left _ (List.mem_append_left _ (List.mem_map_of_mem ?_))
  exact List.mem_filter.mpr ⟨closing, by simpa using new⟩

/-- When a closing has ended, a closing call looks whether that is the one it waits for. -/
theorem mem_woken_closer {s t : State} {call : Nat} {closer : Closer}
    (found : t.closer? call = some closer) (fewer : t.closings.length < s.closings.length) :
    .closer call ∈ woken s t := by
  obtain ⟨before, after, eq, -⟩ := List.lookup_eq_some_iff.mp found
  refine List.mem_append_right _ ?_
  rw [if_pos fewer, eq]
  exact List.mem_map.mpr ⟨(call, closer), List.mem_append_right _ List.mem_cons_self, rfl⟩

/-- Only connections that begin to be closed give tasks beside the script something to do. -/
theorem task_of_mem_woken {s t : State} {wait : Wait} (member : wait ∈ woken s t) :
    wait.task = .script ∨ ∃ connection ∈ t.closings, connection ∉ s.closings ∧
      wait.task = .closing connection := by
  rcases List.mem_append.mp member with early | late
  · rcases List.mem_append.mp early with closing | turn
    · obtain ⟨connection, among, rfl⟩ := List.mem_map.mp closing
      obtain ⟨now, new⟩ := List.mem_filter.mp among
      exact .inr ⟨connection, now, by simpa using new, rfl⟩
    · obtain ⟨entry, _, rfl⟩ := List.mem_map.mp turn
      exact .inl rfl
  · split at late
    · obtain ⟨entry, _, rfl⟩ := List.mem_map.mp late
      exact .inl rfl
    · contradiction

/-- Where no connection begins to be closed, only the script is given something to do. -/
theorem task_of_mem_woken_of_subset {s t : State} (fewer : t.closings ⊆ s.closings) {wait : Wait}
    (member : wait ∈ woken s t) : wait.task = .script :=
  (task_of_mem_woken member).resolve_right fun ⟨_, after, before, _⟩ => before (fewer after)

end Waking

/-! ### What holds between steps -/

/-- What holds between tasks and waits while nobody borrows in the background. -/
structure Scheduled (r : Run σ) : Prop where
  background : r.background = []
  due : ∀ timer ∈ r.timers, timer.due ≠ none
  ready : ∀ connection, r.ready.count (.closing connection) ≤ 1
  once : r.pool.closings.Nodup
  tasks : ∀ task ∈ r.ready,
    task = .script ∨ ∃ connection ∈ r.pool.closings, task = .closing connection
  closing : ∀ connection ∈ r.pool.closings,
    .closing connection ∈ r.ready ∨ r.waitsFor (.closing connection) = true
  timers : ∀ connection, r.waitsFor (.closing connection) = true → connection ∈ r.pool.closings

/-- How many of these connections have a closing that has not begun. -/
def unbegun (r : Run σ) (closings : List Nat) : Nat :=
  closings.countP fun connection => !decide (r.Begun (.closing connection))

/-- What is still to be done for the waits that have begun, the tasks that can go on and the
connections that are being closed. -/
def load (r : Run σ) : Nat :=
  3 * r.timers.length + r.ready.length + r.pool.closings.length + 3 * r.unbegun r.pool.closings

section Load

variable {r t : Run σ} {closings : List Nat}

theorem unbegun_le_length (r : Run σ) (closings : List Nat) : r.unbegun closings ≤ closings.length :=
  List.countP_le_length

theorem unbegun_mono (begun : ∀ connection ∈ closings,
    r.Begun (.closing connection) → t.Begun (.closing connection)) :
    t.unbegun closings ≤ r.unbegun closings := by
  refine List.countP_mono_left fun connection member => ?_
  simpa using fun unbegun before => unbegun (begun connection member before)

theorem unbegun_congr (same : ∀ connection,
    t.Begun (.closing connection) ↔ r.Begun (.closing connection)) (closings : List Nat) :
    t.unbegun closings = r.unbegun closings :=
  Nat.le_antisymm (unbegun_mono fun connection _ => (same connection).mpr)
    (unbegun_mono fun connection _ => (same connection).mp)

/-- A closing begins. -/
theorem unbegun_lt {connection : Nat} (among : connection ∈ closings)
    (new : ¬r.Begun (.closing connection)) (now : t.Begun (.closing connection))
    (begun : ∀ other, r.Begun (.closing other) → t.Begun (.closing other)) :
    t.unbegun closings < r.unbegun closings := by
  have perm := List.perm_cons_erase among
  rw [unbegun, unbegun, perm.countP_eq, perm.countP_eq, List.countP_cons_of_neg (by simpa using now),
    List.countP_cons_of_pos (by simpa using new)]
  exact Nat.lt_succ_of_le (unbegun_mono fun other _ => begun other)

/-- The effort that a script is given makes up for the load and leaves sixteen for each of its
calls. -/
theorem load_add_le_effort (r : Run σ) (calls : Nat) : r.load + 16 * (calls + 1) ≤ r.effort calls := by
  have most := r.unbegun_le_length r.pool.closings
  simp only [load, effort]
  omega

end Load

namespace Scheduled

variable {r : Run σ}

/-- The closing of a connection goes on at most once. -/
theorem count_le (scheduled : Scheduled r) {task : Task} {ready : List Task}
    (first : r.ready = task :: ready) (connection : Nat) : ready.count (.closing connection) ≤ 1 := by
  refine Nat.le_trans (List.Sublist.count_le _ (List.sublist_cons_self task ready)) ?_
  exact first ▸ scheduled.ready connection

/-- What concerns no connection that is being closed. -/
theorem same {t : Run σ} (scheduled : Scheduled r) (background : t.background = r.background)
    (due : ∀ timer ∈ t.timers, timer.due ≠ none) (ready : t.ready = r.ready)
    (closings : t.pool.closings = r.pool.closings)
    (waits : ∀ connection, t.waitsFor (.closing connection) = r.waitsFor (.closing connection)) :
    Scheduled t where
  background := background.trans scheduled.background
  due := due
  ready := ready ▸ scheduled.ready
  once := closings ▸ scheduled.once
  tasks := by
    rw [ready, closings]
    exact scheduled.tasks
  closing := by
    intro connection
    rw [ready, closings, waits]
    exact scheduled.closing connection
  timers := by
    intro connection
    rw [closings, waits]
    exact scheduled.timers connection

theorem forget (scheduled : Scheduled r) {waits : List Wait}
    (kept : ∀ connection, .closing connection ∉ waits) :
    Scheduled (r.forget waits) ∧ (r.forget waits).load ≤ r.load := by
  refine ⟨scheduled.same rfl ?_ rfl rfl fun connection => waitsFor_forget (kept connection), ?_⟩
  · exact fun timer member => scheduled.due timer (List.mem_of_mem_filter member)
  · have fewer : (r.forget waits).timers.length ≤ r.timers.length := List.length_filter_le _ _
    have unbegun : (r.forget waits).unbegun r.pool.closings = r.unbegun r.pool.closings :=
      unbegun_congr (fun connection => begun_forget (kept connection)) _
    change 3 * (r.forget waits).timers.length + r.ready.length + r.pool.closings.length +
      3 * (r.forget waits).unbegun r.pool.closings ≤ r.load
    rw [unbegun, load]
    omega

theorem begin (scheduled : Scheduled r) {wait : Wait} (script : wait.task = .script) (due : Nat) :
    Scheduled { r with timers := r.timers ++ [⟨wait, some due⟩] } ∧
      load { r with timers := r.timers ++ [⟨wait, some due⟩] } = r.load + 3 := by
  have other (connection : Nat) : wait ≠ .closing connection := by
    rintro rfl
    contradiction
  have waits (connection : Nat) :
      waitsFor { r with timers := r.timers ++ [⟨wait, some due⟩] } (.closing connection) =
        r.waitsFor (.closing connection) := by
    simp [waitsFor, other connection]
  refine ⟨scheduled.same rfl ?_ rfl rfl waits, ?_⟩
  · intro timer member
    rcases List.mem_append.mp member with before | last
    · exact scheduled.due timer before
    · rw [List.mem_singleton.mp last]
      exact nofun
  · have unbegun : Run.unbegun { r with timers := r.timers ++ [⟨wait, some due⟩] } r.pool.closings =
        r.unbegun r.pool.closings :=
      unbegun_congr (fun connection => by rw [Begun, waits, Begun]) _
    simp only [load, unbegun, List.length_append, List.length_singleton]
    omega

/-- The script goes on. -/
theorem pop (scheduled : Scheduled r) {ready : List Task} (first : r.ready = .script :: ready) :
    Scheduled { r with ready } ∧ load { r with ready } + 1 = r.load := by
  refine ⟨⟨scheduled.background, scheduled.due, scheduled.count_le first, scheduled.once, ?_, ?_,
    scheduled.timers⟩, ?_⟩
  · intro task member
    exact scheduled.tasks task (first ▸ List.mem_cons_of_mem _ member)
  · intro connection member
    refine (scheduled.closing connection member).imp_left fun among => ?_
    rw [first] at among
    exact (List.mem_cons.mp among).resolve_left nofun
  · simp only [load, first, List.length_cons]
    change 3 * r.timers.length + ready.length + _ + 3 * r.unbegun r.pool.closings + 1 = _
    omega

/-- The script begins to go on. -/
theorem push (scheduled : Scheduled r) : Scheduled { r with ready := .script :: r.ready } ∧
    load { r with ready := .script :: r.ready } = r.load + 1 := by
  refine ⟨⟨scheduled.background, scheduled.due, ?_, scheduled.once, ?_, ?_, scheduled.timers⟩, ?_⟩
  · intro connection
    rw [List.count_cons_of_ne Task.noConfusion]
    exact scheduled.ready connection
  · intro task member
    rcases List.mem_cons.mp member with script | before
    · exact .inl script
    · exact scheduled.tasks task before
  · intro connection closing
    exact (scheduled.closing connection closing).imp_left (List.mem_cons_of_mem _)
  · simp only [load, List.length_cons]
    change 3 * r.timers.length + (r.ready.length + 1) + _ + 3 * r.unbegun r.pool.closings = _
    omega

/-- A step of the pool adds to the load at most that the script can go on and what is to be done for
each connection that begins to be closed. -/
theorem step (scheduled : Scheduled r) {event : Event} {new : List Nat}
    (grown : (r.pool.step event).closings = r.pool.closings ++ new)
    (once : (r.pool.step event).closings.Nodup) :
    Scheduled (r.step event) ∧ (r.step event).load ≤ r.load + 1 + 5 * new.length := by
  obtain ⟨more, wakes, eq⟩ := exists_step scheduled.background event
  have fresh : ∀ connection ∈ (r.pool.step event).closings, connection ∉ r.pool.closings →
      connection ∈ new := by
    intro connection closing before
    rw [grown] at closing
    exact (List.mem_append.mp closing).resolve_left before
  have few : more.length ≤ new.length + 1 := by
    have bound := wakes.length_le (.script :: new.map .closing) ?_
    · simpa using bound
    · intro wait member
      rcases task_of_mem_woken member with script | ⟨connection, now, before, closing⟩
      · exact script ▸ List.mem_cons_self
      · exact closing ▸ List.mem_cons_of_mem _ (List.mem_map_of_mem (fresh connection now before))
  rw [eq]
  refine ⟨⟨scheduled.background, scheduled.due,
    fun connection => wakes.count_le (scheduled.ready connection), once, ?_, ?_, ?_⟩, ?_⟩
  · intro task member
    rcases List.mem_append.mp member with before | later
    · refine (scheduled.tasks task before).imp_right fun ⟨connection, closing, same⟩ => ?_
      exact ⟨connection, grown ▸ List.mem_append_left _ closing, same⟩
    · obtain ⟨wait, among, rfl⟩ := wakes.among task later
      exact (task_of_mem_woken among).imp_right fun ⟨connection, closing, _, same⟩ =>
        ⟨connection, closing, same⟩
  · intro connection closing
    by_cases before : connection ∈ r.pool.closings
    · exact (scheduled.closing connection before).imp_left (List.mem_append_left _)
    · exact .inl (wakes.all _ (mem_woken_closing before closing))
  · intro connection waits
    exact grown ▸ List.mem_append_left _ (scheduled.timers connection waits)
  · have unbegun : r.unbegun (r.pool.closings ++ new) = r.unbegun r.pool.closings + r.unbegun new :=
      List.countP_append
    have most := r.unbegun_le_length new
    simp only [load, grown, List.length_append]
    change 3 * r.timers.length + (r.ready.length + more.length) +
      (r.pool.closings.length + new.length) + 3 * r.unbegun (r.pool.closings ++ new) ≤ _
    omega

end Scheduled

end Run

end SqlProbe.Pool
