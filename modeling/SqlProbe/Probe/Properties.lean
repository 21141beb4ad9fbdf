import SqlProbe.Probe.Context
import SqlProbe.Probe.Work
import SqlProbe.Properties.Apply

/-!
# The probe of connection properties

Connects with a bag of properties and reports the session that comes of it.
-/

namespace SqlProbe.Probe

variable {σ : Type}

/-- The properties that the probe sets: the credentials and a few fixed ones, and over these the
extra ones in order of their names. -/
def standardProperties (context : Context) : Properties :=
  let fixed := [("user", context.base.username.getD ""),
    ("password", context.base.password.getD ""), ("useSSL", "false"),
    (Properties.timeZoneParam, "UTC"), (Properties.encodingParam, "utf8")]
  Properties.ofList (fixed ++ context.extra.entries)

/-- The properties as the report shows them. -/
def propertiesText (bag : Properties) : String :=
  ", ".intercalate (bag.redacted.map fun (key, value) => key ++ "=" ++ value)

/-- The steps that tell of a session. -/
def sessionSteps (session : SessionInfo) : List Step :=
  [.okWith "Auto-commit" (toString session.autoCommit),
    .okWith "Read-only" (toString session.readOnly),
    .okWith "Transaction isolation" (session.isolation.text ++ " (" ++
      toString session.isolation.code ++ ")"),
    .okWith "Catalog" (session.catalog.getD "(none)")] ++
  (session.timeZone.map (Step.okWith "Time zone")).toList ++
  (session.characterEncoding.map (Step.okWith "Character encoding")).toList

/-- Reports the session of a connection. -/
def sessionWork (driver : Driver σ) (connection : Nat) : WorkM σ Unit := do
  (sessionSteps (← look (driver.session connection))).forM report

/-- Connects with the properties and reports the session. -/
def propertiesWork (driver : Driver σ) (context : Context) : WorkM σ Unit := do
  let bag := standardProperties context
  match bag.applyTo context.base with
  | .ok config =>
    report (.okWith "Properties" (propertiesText bag))
    withConnection driver config (sessionWork driver)
  | .error cause => report (.fail "Apply connection properties" cause)

end SqlProbe.Probe
