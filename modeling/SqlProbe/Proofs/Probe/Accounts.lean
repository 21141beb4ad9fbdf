import Mathlib.Data.List.Forall2
import SqlProbe.Probe.Work
import SqlProbe.Proofs.Driver.Recording

/-!
# Work that accounts for its calls

The work of a probe is put together from driver calls and reports. A call that fails leaves an error
that is owed, and the next report has to be of that error; whatever else is reported went well. Work
that owes nothing in the end has reported the failures of its calls, all of them and no others.
-/

namespace SqlProbe.Probe

open Driver (Made)

variable {σ α β : Type}

/-- The step reports an error. -/
def Tells (step : Step) (cause : Error) : Prop :=
  step.status = .failed cause.kind.name ∧ step.detail = some cause.message

/-- Whether its calls are put on record or not, the work comes to the same. The calls take the given
course, and the failed steps tell of the errors that were owed before and of those of the calls, one
by one and in order. -/
def Accounts (owed : List Error) (course : α → List Made → Prop) (noted : WorkM (σ × List Made) α)
    (work : WorkM σ α) : Prop :=
  ∀ state record steps, ∃ value after calls told,
    work ⟨state, steps⟩ = (value, ⟨after, steps ++ told⟩) ∧
      noted ⟨(state, record), steps⟩ = (value, ⟨(after, record ++ calls), steps ++ told⟩) ∧
      course value calls ∧
      List.Forall₂ Tells (told.filter fun step => step.status.isFailed)
        (owed ++ calls.filterMap Made.failure?)

/-- There are no calls. -/
def Quiet (_ : α) (calls : List Made) : Prop := calls = []

/-- Calls for some items, one item after the other. -/
inductive Each (course : α → List Made → Prop) : List α → List Made → Prop
  | nil : Each course [] []
  | cons {item : α} {items : List α} {calls others : List Made} (first : course item calls)
      (rest : Each course items others) : Each course (item :: items) (calls ++ others)

namespace Each

variable {course : α → List Made → Prop}

theorem append {items others : List α} {calls more : List Made} (one : Each course items calls)
    (other : Each course others more) : Each course (items ++ others) (calls ++ more) := by
  induction one with
  | nil => exact other
  | cons first _ ih => exact List.append_assoc .. ▸ .cons first ih

theorem singleton {item : α} {calls : List Made} (only : course item calls) :
    Each course [item] calls := by
  simpa using Each.cons only .nil

theorem quiet {items : List α} {calls : List Made} (each : Each Quiet items calls) :
    calls = [] := by
  induction each with
  | nil => rfl
  | cons first _ ih => rw [first, ih, List.nil_append]

end Each

namespace Accounts

section

variable {owed : List Error} {course : α → List Made → Prop} {noted : WorkM (σ × List Made) α}
  {work : WorkM σ α}

theorem mono {weaker : α → List Made → Prop} (accounts : Accounts owed course noted work)
    (weaken : ∀ value calls, course value calls → weaker value calls) :
    Accounts owed weaker noted work := by
  intro state record steps
  obtain ⟨value, after, calls, told, plain, watched, taken, failures⟩ := accounts state record steps
  exact ⟨value, after, calls, told, plain, watched, weaken value calls taken, failures⟩

/-- Nothing more is called. -/
theorem only (accounts : Accounts owed Quiet noted work) (alone : ∀ value, course value []) :
    Accounts owed course noted work :=
  accounts.mono fun value _ none => none ▸ alone value

theorem pure (value : α) (none : course value []) :
    Accounts (σ := σ) [] course (pure value) (pure value) := by
  intro state record steps
  refine ⟨value, state, [], [], ?_, ?_, none, .nil⟩ <;> simp only [List.append_nil] <;> rfl

theorem look {f : σ → α} : Accounts [] Quiet (Probe.look fun s => f s.1) (Probe.look f) := by
  intro state record steps
  refine ⟨f state, state, [], [], ?_, ?_, rfl, .nil⟩ <;> simp only [List.append_nil] <;> rfl

theorem report {step : Step} (well : step.status = .ok) :
    Accounts (σ := σ) [] Quiet (Probe.report step) (Probe.report step) := by
  intro state record steps
  refine ⟨(), state, [], [step], rfl, ?_, rfl, ?_⟩
  · rw [List.append_nil]
    rfl
  · simp [well, Status.isFailed]

/-- An error that is owed is reported. -/
theorem reportFailure (label : String) (cause : Error) : Accounts (σ := σ) [cause] Quiet
    (Probe.report (.fail label cause)) (Probe.report (.fail label cause)) := by
  intro state record steps
  refine ⟨(), state, [], [.fail label cause], rfl, ?_, rfl, .cons ⟨rfl, rfl⟩ .nil⟩
  rw [List.append_nil]
  rfl

theorem bind {first : α → List Made → Prop} {rest : α → β → List Made → Prop}
    {whole : β → List Made → Prop} {next : α → WorkM σ β} {notedNext : α → WorkM (σ × List Made) β}
    (begins : Accounts owed first noted work)
    (goesOn : ∀ value, Accounts [] (rest value) (notedNext value) (next value))
    (both : ∀ {value result calls others}, first value calls → rest value result others →
      whole result (calls ++ others)) :
    Accounts owed whole (noted >>= notedNext) (work >>= next) := by
  intro state record steps
  obtain ⟨value, after, calls, told, plain, watched, taken, failures⟩ := begins state record steps
  obtain ⟨result, last, others, more, plain', watched', taken', failures'⟩ :=
    goesOn value after (record ++ calls) (steps ++ told)
  refine ⟨result, last, calls ++ others, told ++ more, ?_, ?_, both taken taken', ?_⟩
  · change (let done := work ⟨state, steps⟩; next done.1 done.2) = _
    rw [plain]
    simpa using plain'
  · change (let done := noted ⟨(state, record), steps⟩; notedNext done.1 done.2) = _
    rw [watched]
    simpa using watched'
  · rw [List.filter_append, List.filterMap_append, ← List.append_assoc]
    exact List.rel_append failures failures'

/-- What comes first makes no calls. -/
theorem quietly {next : α → WorkM σ β} {notedNext : α → WorkM (σ × List Made) β}
    {course : β → List Made → Prop} (begins : Accounts owed Quiet noted work)
    (goesOn : ∀ value, Accounts [] course (notedNext value) (next value)) :
    Accounts owed course (noted >>= notedNext) (work >>= next) :=
  begins.bind goesOn fun none taken => none ▸ taken

theorem returning {course : List Made → Prop}
    (accounts : Accounts owed (fun _ => course) noted work) (result : β) :
    Accounts owed (fun _ => course) (noted >>= fun _ => Pure.pure result)
      (work >>= fun _ => Pure.pure result) := by
  have ends : Accounts (σ := σ) [] Quiet (Pure.pure result) (Pure.pure result) := .pure result rfl
  refine accounts.bind (fun _ => ends) ?_
  rintro _ _ calls _ taken rfl
  exact (List.append_nil calls).symm ▸ taken

end

/-- If a call fails, its error is owed by what comes behind it. -/
theorem await {call : Call σ α} {entry : Except Error α → Made} {course : β → List Made → Prop}
    {next : Except Error α → WorkM σ β} {notedNext : Except Error α → WorkM (σ × List Made) β}
    (goesOn : ∀ outcome, Accounts (entry outcome).failure?.toList
      (fun result calls => course result (entry outcome :: calls)) (notedNext outcome)
      (next outcome)) :
    Accounts [] course (Probe.await (call.recorded entry) >>= notedNext)
      (Probe.await call >>= next) := by
  intro state record steps
  obtain ⟨result, last, others, told, plain, watched, taken, failures⟩ :=
    goesOn (call.run state).1 (call.run state).2 (record ++ [entry (call.run state).1]) steps
  refine ⟨result, last, entry (call.run state).1 :: others, told, plain, ?_, taken, ?_⟩
  · change (let done := Probe.within (call.recorded entry).run ⟨(state, record), steps⟩
      notedNext done.1 done.2) = _
    simp only [Probe.within, Call.run_recorded]
    simpa using watched
  · cases failed : (entry (call.run state).1).failure? with
    | none => simpa [failed] using failures
    | some cause => simpa [failed] using failures

theorem reportOutcome {outcome : Except Error α} {success : α → Step} (failure : String)
    (well : ∀ value, (success value).status = .ok) :
    Accounts (σ := σ) (failureOf outcome).toList Quiet
      (Probe.reportOutcome outcome success failure)
      (Probe.reportOutcome outcome success failure) := by
  cases outcome with
  | ok value => exact report (well value)
  | error cause => exact reportFailure failure cause

theorem forM {course : α → List Made → Prop} {work : α → WorkM σ Unit}
    {noted : α → WorkM (σ × List Made) Unit} (items : List α)
    (each : ∀ item, Accounts [] (fun _ => course item) (noted item) (work item)) :
    Accounts [] (fun _ => Each course items) (items.forM noted) (items.forM work) := by
  induction items with
  | nil => exact pure () .nil
  | cons item items ih => exact (each item).bind (fun _ => ih) fun first rest => .cons first rest

end Accounts

end SqlProbe.Probe
