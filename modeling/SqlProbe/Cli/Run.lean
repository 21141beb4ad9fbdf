import SqlProbe.Cli.Arguments
import SqlProbe.Cli.LogFilter
import SqlProbe.Report.Render
import SqlProbe.Settings.File
import SqlProbe.Settings.Resolve

/-!
# Runs

A run of the program: what is wrong with its surroundings stops it before any probe; failed steps
change the exit code only where the run is strict.
-/

namespace SqlProbe.Cli

/-- What a run finds around it. -/
structure Surroundings (σ : Type) where
  /-- The environment. -/
  environment : String → Option String
  look : String → Settings.File
  /-- Where settings are looked for when no file is named. -/
  usualSettings : Option String
  driver : Driver σ
  state : σ

/-- How a run ends. -/
structure Outcome where
  exitCode : Nat
  output : String := ""
  errors : String := ""
  deriving DecidableEq, Repr

/-- The exit code of a run that is not possible. -/
def impossibleCode : Nat := 2

/-- The end of a run that is not possible, for the causes one behind the other. -/
def Outcome.impossible (causes : List String) : Outcome where
  exitCode := impossibleCode
  errors := "error: " ++ ": ".intercalate causes ++ "\n"

variable {σ : Type}

/-- The environment variable with the log filter. -/
def logVariable : String := "RUST_LOG"

/-- Checks the log filter. -/
def checkLog (environment : String → Option String) (arguments : Arguments) :
    Except (List String) Unit :=
  (LogFilter.choose (environment logVariable) arguments.logLevel).mapError fun fault =>
    ("invalid log level: " ++ arguments.logLevel) :: fault.causes

/-- What the probes need to know. -/
def context (around : Surroundings σ) (arguments : Arguments) :
    Except (List String) Probe.Context := do
  let settings ← (Settings.load around.look arguments.config around.usualSettings).mapError
    fun e => [e.message, e.cause]
  let base ← (Layer.resolve around.driver.profile [settings.target, arguments.target]).mapError
    fun cause => ["invalid connection target", cause.message]
  pure (Probe.Context.of base settings)

/-- The end of a run with the given reports. -/
def Outcome.ofReports (arguments : Arguments) (reports : List Report) : Outcome where
  exitCode := Report.exitCode arguments.strict reports
  output :=
    match arguments.format with
    | .text => String.join (reports.map Report.text)
    | .json => Report.jsonText reports
  errors :=
    match arguments.format with
    | .text => String.join (reports.map Report.failureText)
    | .json => ""

/-- Runs the program; how that ends, and the driver's state afterwards. -/
def run (around : Surroundings σ) (arguments : Arguments) : Outcome × σ :=
  let ready := do
    checkLog around.environment arguments
    context around arguments
  match ready with
  | .error causes => (.impossible causes, around.state)
  | .ok context =>
    let (reports, state) := Probe.runAll around.driver context arguments.probes around.state
    (.ofReports arguments reports, state)

end SqlProbe.Cli
