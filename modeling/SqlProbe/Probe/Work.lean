import SqlProbe.Driver.Basic
import SqlProbe.Report.Basic

/-!
# The work of a probe

A probe makes driver calls one after the other and reports steps. Its work is a function of the
driver's state and the steps so far.
-/

namespace SqlProbe.Probe

/-- The state of a driver, and the steps reported so far. -/
structure Work (σ : Type) where
  state : σ
  steps : List Step := []

/-- What a probe does. -/
abbrev WorkM (σ : Type) := StateM (Work σ)

variable {σ α : Type}

/-- Changes the state of the driver. -/
def within (f : σ → α × σ) : WorkM σ α := fun work =>
  let (value, state) := f work.state
  (value, { work with state })

/-- Makes a driver call. -/
def await (call : Call σ α) : WorkM σ (Except Error α) := within call.run

/-- Looks at the state of the driver. -/
def look (f : σ → α) : WorkM σ α := fun work => (f work.state, work)

/-- Reports a step. -/
def report (step : Step) : WorkM σ Unit := fun work =>
  ((), { work with steps := work.steps ++ [step] })

/-- Reports a step for the outcome of a call. -/
def reportOutcome (outcome : Except Error α) (success : α → Step) (failure : String) :
    WorkM σ Unit :=
  match outcome with
  | .ok value => report (success value)
  | .error cause => report (.fail failure cause)

/-- Opens a connection and reports that. -/
def connect (driver : Driver σ) (config : Config) : WorkM σ (Option Nat) := do
  match ← await (driver.connect config) with
  | .ok connection =>
    report (.ok ("Connected to " ++ config.target))
    pure (some connection)
  | .error cause =>
    report (.fail ("Connect to " ++ config.target) cause)
    pure none

/-- Closes a connection and reports that. -/
def close (driver : Driver σ) (connection : Nat) : WorkM σ Unit := do
  reportOutcome (← await (driver.close connection)) (fun _ => .ok "Connection closed")
    "Close connection"

/-- Works with a new connection, which is closed afterwards. -/
def withConnection (driver : Driver σ) (config : Config) (work : Nat → WorkM σ Unit) :
    WorkM σ Unit := do
  match ← connect driver config with
  | some connection =>
    work connection
    close driver connection
  | none => pure ()

end SqlProbe.Probe
