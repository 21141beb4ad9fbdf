import SqlProbe.Proofs.Pool.Lending

/-!
# What borrowers are told

A borrower is told of its connection, or of an error. While the pool is not shut, there are two
reasons for an error: the connection that was to be opened for the borrower could not be, or the
borrower has waited for too long. Who has been told of an error waits no more.
-/

namespace SqlProbe.Pool

/-- Some borrowers have been told of their outcomes; how the pool is configured, and whether it is
shut, has not changed. -/
structure Informs (s t : State) (told : List (Nat × Except Error Nat)) : Prop where
  config : t.config = s.config
  shut : t.shut = s.shut
  results : t.results = told ++ s.results

/-- All of these borrowers have been told of connections. -/
def AllServed (told : List (Nat × Except Error Nat)) : Prop :=
  ∀ entry ∈ told, ∃ connection, entry.2 = .ok connection

theorem AllServed.singleton (call connection : Nat) : AllServed [(call, .ok connection)] :=
  fun _ member => ⟨connection, congrArg Prod.snd (List.mem_singleton.mp member)⟩

theorem AllServed.not_mem {told : List (Nat × Except Error Nat)} (served : AllServed told)
    (call : Nat) (cause : Error) : (call, .error cause) ∉ told := by
  intro member
  obtain ⟨connection, eq⟩ := served _ member
  exact absurd eq nofun

namespace Informs

variable {s t u : State} {told : List (Nat × Except Error Nat)}

/-- Nobody has been told of anything before. -/
theorem after (second : Informs t u told) (first : Informs s t []) : Informs s u told where
  config := second.config.trans first.config
  shut := second.shut.trans first.shut
  results := by rw [second.results, first.results, List.nil_append]

theorem setGet (s : State) (call : Nat) (get : Get) : Informs s (s.setGet call get) [] :=
  ⟨rfl, rfl, rfl⟩

theorem lend (s : State) (call : Nat) (loan : Loan) :
    Informs s (s.lend call loan) [(call, .ok loan.connection)] :=
  ⟨rfl, rfl, rfl⟩

theorem release (s : State) : Informs s s.release [] := by
  obtain ⟨_, _, eq, -⟩ := release_spec s
  rw [eq]
  exact ⟨rfl, rfl, rfl⟩

theorem leave (s : State) (call : Nat) : Informs s (s.leave call) [] := by
  rcases leave_cases s call with eq | eq
  · rw [eq]
    exact ⟨rfl, rfl, rfl⟩
  · have left : Informs s { s with gets := others call s.gets } [] := ⟨rfl, rfl, rfl⟩
    rw [eq]
    exact (release _).after left

theorem fail (s : State) (call : Nat) (cause : Error) :
    Informs s (s.fail call cause) [(call, .error cause)] := by
  obtain ⟨config, shut, results⟩ := leave s call
  refine ⟨config, shut, ?_⟩
  rw [State.fail, results]
  rfl

theorem noteClosed (s : State) (connection : Nat) (closed : Bool) :
    Informs s (s.noteClosed connection closed) [] := by
  rw [noteClosed_eq]
  exact ⟨rfl, rfl, rfl⟩

theorem retire (s : State) (connection : Nat) (outside : Bool) :
    Informs s (s.retire connection outside) [] := by
  cases outside <;> exact ⟨rfl, rfl, rfl⟩

theorem takeBack (s : State) (loan : Loan) (outside : Bool) :
    Informs s (s.takeBack loan outside) [] := by
  rcases takeBack_cases s loan outside with ⟨_, eq⟩ | ⟨pastLifetime, overIdleCap, eq⟩ | ⟨_, eq⟩
  · rw [eq]
    exact ⟨rfl, rfl, rfl⟩
  · have counted : Informs s { s with pastLifetime, overIdleCap } [] := ⟨rfl, rfl, rfl⟩
    rw [eq]
    exact (retire _ _ _).after counted
  · rw [eq]
    exact ⟨rfl, rfl, rfl⟩

theorem drainNext (s : State) (call : Nat) (wholePool : Bool) (rest : List Nat) :
    Informs s (s.drainNext call wholePool rest) [] := by
  obtain ⟨_, _, eq⟩ := drainNext_eq s call wholePool rest
  rw [eq]
  exact ⟨rfl, rfl, rfl⟩

theorem finishNext (s : State) (call : Nat) (rest : List Retiring) :
    Informs s (s.finishNext call rest) [] := by
  obtain ⟨_, eq⟩ := finishNext_eq s call rest
  rw [eq]
  exact ⟨rfl, rfl, rfl⟩

/-- A borrower that has its turn is told of an idle connection, or of nothing yet. -/
theorem examine (s : State) (call : Nat) : ∃ told, Informs s (s.examine call) told ∧ AllServed told := by
  rcases examine_cases s call with ⟨_, eq⟩ | ⟨entry, idle, _, _, _, ⟨get, _, _, eq⟩ | eq⟩
  · exact ⟨[], eq ▸ setGet s call _, nofun⟩
  · exact ⟨[], by rw [eq]; exact ⟨rfl, rfl, rfl⟩, nofun⟩
  · have popped : Informs s { s with idle } [] := ⟨rfl, rfl, rfl⟩
    exact ⟨_, eq ▸ (lend _ call _).after popped, .singleton call _⟩

/-- A borrower that comes is not let down while the pool is not shut. -/
theorem startGet (running : s.shut = false) {call : Nat} (new : s.get? call = none) :
    ∃ told, Informs s (s.startGet call) told ∧ AllServed told := by
  have welcome (free : Nat) (get : Get) : Informs s (s.welcome call free get) [] := ⟨rfl, rfl, rfl⟩
  rcases startGet_eq running new with ⟨_, eq⟩ | ⟨_, eq⟩
  · exact ⟨[], eq ▸ welcome 0 .queued, nofun⟩
  · obtain ⟨told, informs, served⟩ := examine (s.welcome call (s.free - 1) .granted) call
    rw [eq]
    exact ⟨told, informs.after (welcome _ _), served⟩

end Informs

/-- While a pool is not shut, only these errors are told: that the connection could not be opened, and
that the borrower has waited for too long. -/
theorem informs_step {s : State} (running : s.shut = false) (event : Event)
    (open_ : ∀ call, event ≠ .close call) : ∃ told, Informs s (s.step event) told ∧
      ∀ call cause, (call, .error cause) ∈ told →
        event = .refused call cause ∨ cause = s.config.timedOut := by
  have quiet {t : State} (informs : Informs s t []) : ∃ told, Informs s t told ∧
      ∀ call cause, (call, .error cause) ∈ told →
        event = .refused call cause ∨ cause = s.config.timedOut :=
    ⟨[], informs, nofun⟩
  have serves {t : State} (informs : ∃ told, Informs s t told ∧ AllServed told) :
      ∃ told, Informs s t told ∧ ∀ call cause, (call, .error cause) ∈ told →
        event = .refused call cause ∨ cause = s.config.timedOut := by
    obtain ⟨told, informs, served⟩ := informs
    exact ⟨told, informs, fun call cause member => absurd member (served.not_mem call cause)⟩
  have effect := step_effect s event
  generalize s.step event = t at effect ⊢
  cases effect with
  | nothing => exact quiet ⟨rfl, rfl, rfl⟩
  | tick => exact quiet ⟨rfl, rfl, rfl⟩
  | lose => exact quiet (.noteClosed s _ true)
  | get new => exact serves (Informs.startGet running new)
  | turnedAway _ _ shut => exact absurd (running.symm.trans shut) nofun
  | turn => exact serves (Informs.examine s _)
  | usable => exact serves ⟨_, .lend s _ _, .singleton _ _⟩
  | unusable => exact quiet (.setGet s _ _)
  | @discarded call connection closed =>
    obtain ⟨told, informs, served⟩ := Informs.examine (s.noteClosed connection closed) call
    exact serves ⟨told, informs.after (.noteClosed s connection closed), served⟩
  | @opened call connection =>
    have noted : Informs s (s.noteOpened connection) [] := ⟨rfl, rfl, rfl⟩
    exact serves ⟨_, (Informs.lend _ call _).after noted, .singleton _ _⟩
  | @refused call cause =>
    refine ⟨_, .fail s call cause, fun other told member => .inl ?_⟩
    cases List.mem_singleton.mp member
    rfl
  | @expired call =>
    refine ⟨_, .fail s call _, fun other told member => .inr ?_⟩
    cases List.mem_singleton.mp member
    rfl
  | cancelled call => exact quiet (.leave s call)
  | @givenBack connection loan outside =>
    have fewer : Informs s { s with loans := s.loans.erase loan, active := s.active - 1 } [] :=
      ⟨rfl, rfl, rfl⟩
    exact quiet ((Informs.release _).after ((Informs.takeBack _ loan outside).after fewer))
  | @retired connection closed =>
    have fewer : Informs s { s with closings := s.closings.erase connection } [] := ⟨rfl, rfl, rfl⟩
    exact quiet ((Informs.noteClosed _ connection closed).after fewer)
  | warmUp =>
    obtain ⟨_, eq⟩ := warm_eq s _
    exact quiet (eq ▸ ⟨rfl, rfl, rfl⟩)
  | @warmed call connection =>
    obtain ⟨_, eq⟩ := warm_eq ((s.noteOpened connection).putWarm connection) call
    exact quiet (eq ▸ ⟨rfl, rfl, rfl⟩)
  | warmFailed => exact quiet ⟨rfl, rfl, rfl⟩
  | closeIdle =>
    have cleared : Informs s { s with idle := [] } [] := ⟨rfl, rfl, rfl⟩
    exact quiet ((Informs.drainNext _ _ _ _).after cleared)
  | close => exact absurd rfl (open_ _)
  | drained closed => exact quiet ((Informs.drainNext _ _ _ _).after (.noteClosed s _ closed))
  | finished closed => exact quiet ((Informs.finishNext _ _ _).after (.noteClosed s _ closed))
  | joined => exact quiet (.finishNext s _ _)

/-- The borrower has been told of an error, and waits no more. -/
def LetDown (s : State) (call : Nat) (cause : Error) : Prop :=
  s.get? call = none ∧ s.result? call = some (.error cause)

theorem letDown_fail (s : State) (call : Nat) (cause : Error) : LetDown (s.fail call cause) call cause := by
  refine ⟨?_, List.lookup_cons_self⟩
  change (s.leave call).gets.lookup call = none
  have gone := lookup_others_self s.gets call
  rcases leave_cases s call with eq | eq
  · rw [eq]
    exact gone
  · rw [eq]
    rcases (grants_release { s with gets := others call s.gets }).lookup call with same | ⟨queued, _⟩
    · exact same.trans gone
    · exact absurd (gone.symm.trans queued) nofun

end SqlProbe.Pool
