import SqlProbe.Probe.Run
import SqlProbe.Proofs.Properties.Applying

/-!
# What the work of a probe reports

What is reported stays in the report: each part of the work only puts steps behind those that there
are. So the first step of a report is the one that was reported first, whatever comes of the
connection that is opened afterwards.
-/

namespace SqlProbe.Probe

variable {σ α β : Type}

/-- The work leaves the steps before it where they are. -/
def Appends (work : WorkM σ α) : Prop :=
  ∀ before, before.steps <+: (work before).2.steps

namespace Appends

theorem pure (value : α) : Appends (pure value : WorkM σ α) := fun _ => List.prefix_rfl

theorem bind {work : WorkM σ α} {next : α → WorkM σ β} (first : Appends work)
    (rest : ∀ value, Appends (next value)) : Appends (work >>= next) :=
  fun before => (first before).trans (rest _ _)

theorem within (f : σ → α × σ) : Appends (Probe.within f) := fun _ => List.prefix_rfl

theorem look (f : σ → α) : Appends (Probe.look f) := fun _ => List.prefix_rfl

theorem report (step : Step) : Appends (σ := σ) (Probe.report step) := fun _ => List.prefix_append ..

theorem reportOutcome (outcome : Except Error α) (success : α → Step) (failure : String) :
    Appends (σ := σ) (Probe.reportOutcome outcome success failure) := by
  cases outcome with
  | ok value => exact report _
  | error cause => exact report _

theorem forM (items : List α) {work : α → WorkM σ Unit} (each : ∀ item, Appends (work item)) :
    Appends (items.forM work) := by
  induction items with
  | nil => exact pure ()
  | cons item items ih => exact (each item).bind fun _ => ih

theorem connect (driver : Driver σ) (config : Config) : Appends (Probe.connect driver config) := by
  refine (within _).bind fun outcome => ?_
  cases outcome with
  | ok connection => exact (report _).bind fun _ => pure _
  | error cause => exact (report _).bind fun _ => pure _

theorem close (driver : Driver σ) (connection : Nat) : Appends (Probe.close driver connection) :=
  (within _).bind fun outcome => reportOutcome outcome _ _

theorem withConnection (driver : Driver σ) (config : Config) {work : Nat → WorkM σ Unit}
    (each : ∀ connection, Appends (work connection)) :
    Appends (Probe.withConnection driver config work) := by
  refine (connect driver config).bind fun opened => ?_
  cases opened with
  | none => exact pure ()
  | some connection => exact (each connection).bind fun _ => close driver connection

end Appends

/-- The properties are reported exactly if they are accepted, and then as the bag shows them. -/
theorem step?_properties (driver : Driver σ) (context : Context) (state : σ) :
    (run driver context .properties state).1.step? "Properties" =
      if Properties.Accepted (standardProperties context).entries then
        some (.okWith "Properties" (propertiesText (standardProperties context)))
      else none := by
  have outcome := Properties.applyTo_toOption (standardProperties context) context.base
  change (propertiesWork driver context { state }).2.steps.find? _ = _
  unfold propertiesWork
  cases applied : (standardProperties context).applyTo context.base with
  | error cause =>
    rw [applied] at outcome
    split at outcome
    · cases outcome
    · next refused =>
      rw [if_neg refused]
      rfl
  | ok config =>
    rw [applied] at outcome
    split at outcome
    · next accepted =>
      rw [if_pos accepted]
      obtain ⟨more, steps⟩ := Appends.withConnection driver config (fun connection =>
        (Appends.look _).bind fun session => Appends.forM (sessionSteps session) Appends.report)
        { state, steps := [.okWith "Properties" (propertiesText (standardProperties context))] }
      exact (congrArg (List.find? _) steps.symm).trans rfl
    · cases outcome

end SqlProbe.Probe
