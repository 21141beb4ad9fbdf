import Mathlib.Order.Defs.Unbundled
import SqlProbe.Probe.Work

/-!
# What the work of a probe does to its driver

The work of a probe is put together from driver calls and reports. What each of its parts does to the
state of the driver, as a reflexive and transitive relation, the whole of it does as well.
-/

namespace SqlProbe.Probe

variable {σ α β : Type} {R : σ → σ → Prop}

/-- Whatever has happened before, the state of the driver afterwards is so related to the state
before. -/
def Relates (R : σ → σ → Prop) (work : WorkM σ α) : Prop :=
  ∀ before, R before.state (work before).2.state

namespace Relates

theorem within {f : σ → α × σ} (changes : ∀ s, R s (f s).2) : Relates R (Probe.within f) :=
  fun before => changes before.state

theorem await {call : Call σ α} (changes : ∀ s, R s (call.run s).2) : Relates R (Probe.await call) :=
  within changes

/-- One thing is done after another. -/
theorem andThen {S T : σ → σ → Prop} {work : WorkM σ α} {next : α → WorkM σ β}
    (first : Relates R work) (rest : ∀ value, Relates S (next value))
    (both : ∀ {s t u}, R s t → S t u → T s u) : Relates T (work >>= next) :=
  fun before => both (first before) (rest _ _)

theorem bind [IsTrans σ R] {work : WorkM σ α} {next : α → WorkM σ β} (first : Relates R work)
    (rest : ∀ value, Relates R (next value)) : Relates R (work >>= next) :=
  first.andThen rest fun before after => IsTrans.trans _ _ _ before after

variable [IsPreorder σ R]

theorem pure (value : α) : Relates R (pure value : WorkM σ α) := fun before => refl before.state

theorem look (f : σ → α) : Relates R (Probe.look f) := fun before => refl before.state

theorem report (step : Step) : Relates R (Probe.report step) := fun before => refl before.state

theorem reportOutcome (outcome : Except Error α) (success : α → Step) (failure : String) :
    Relates R (Probe.reportOutcome outcome success failure) := by
  cases outcome with
  | ok value => exact report _
  | error cause => exact report _

theorem forM {items : List α} {work : α → WorkM σ Unit}
    (each : ∀ item ∈ items, Relates R (work item)) : Relates R (items.forM work) := by
  induction items with
  | nil => exact pure ()
  | cons item items ih =>
    exact (each item List.mem_cons_self).bind fun _ =>
      ih fun other member => each other (List.mem_cons_of_mem _ member)

end Relates

end SqlProbe.Probe
