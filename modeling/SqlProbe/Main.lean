import SqlProbe.Cli.Run
import SqlProbe.Mysql.Client

/-!
# The program

The command line. It reads the environment and the settings file, runs, and writes what comes of it.
No transport to MySQL servers is linked here, so every handshake fails for want of a route.
-/

namespace SqlProbe.Cli

/-- The environment variables that a run may look at. -/
def environmentNames : List String :=
  Parameter.all.filterMap Parameter.standIn? ++ [logVariable]

/-- Reads environment variables. -/
def readEnvironment (names : List String) : IO (String → Option String) := do
  let found ← names.filterMapM fun name => do return (← IO.getEnv name).map (name, ·)
  return fun name => found.lookup name

/-- Where settings are looked for when no file is named. -/
def usualSettings : IO (Option String) := do
  let own := (← IO.getEnv "XDG_CONFIG_HOME").filter fun folder => folder.startsWith "/"
  let shared := (← IO.getEnv "HOME").map fun home => home ++ "/.config"
  return (own <|> shared).map fun folder => folder ++ "/tinyprobe/config.toml"

/-- Looks at a settings file. -/
def readSettings (path : String) : IO Settings.File := do
  match ← (IO.FS.readBinFile path).toBaseIO with
  | .ok bytes => return .holds bytes.toList
  | .error (.noFileOrDirectory ..) => return .missing
  | .error (.inappropriateType _ code reason) => return .unreadable s!"{reason} (os error {code})"
  | .error (.permissionDenied _ code reason) => return .unreadable s!"{reason} (os error {code})"
  | .error other => return .unreadable (toString other)

/-- There is something at a path. -/
def isThere (path : String) : IO Bool := do
  return (← (IO.FS.realPath path).toBaseIO).isOk

/-- The files with certificates that the probes may ask for. -/
def certificateFiles (context : Probe.Context) : List String :=
  context.base.tls.caCert.toList ++ context.extra.entries.map (·.2)

/-- What a run finds around it, when these files are there. -/
def surroundings (environment : String → Option String) (usual : Option String)
    (file : Settings.File) (present : List String) : Surroundings (Mysql.Client Unit) where
  environment := environment
  look _ := file
  usualSettings := usual
  driver := Mysql.driver present.contains (.unreachable Mysql.noRoute)
  state := { network := () }

/-- Runs the program and writes what comes of it; the exit code. -/
def perform (environment : String → Option String) (arguments : Arguments) : IO Nat := do
  let usual ← usualSettings
  let file ← match arguments.config <|> usual with
    | some path => readSettings path
    | none => pure .missing
  let present ← match context (surroundings environment usual file []) arguments with
    | .ok context => (certificateFiles context).filterM isThere
    | .error _ => pure []
  let outcome := (run (surroundings environment usual file present) arguments).1
  (← IO.getStdout).putStr outcome.output
  (← IO.getStderr).putStr outcome.errors
  return outcome.exitCode

/-- What the program says instead of running. -/
def instead : Refusal → String
  | .version => "tinyprobe " ++ Driver.version
  | _ => "Usage: tinyprobe [OPTIONS] [COMMAND]"

/-- Reads the words behind the name of the program, and runs or says why not; the exit code. -/
def start (words : List String) : IO Nat := do
  let environment ← readEnvironment environmentNames
  match Arguments.read environment words with
  | .ok arguments => perform environment arguments
  | .error refusal =>
    let stream ← if refusal.exitCode = 0 then IO.getStdout else IO.getStderr
    stream.putStrLn (instead refusal)
    return refusal.exitCode

end SqlProbe.Cli

/-- The command line. -/
def main (words : List String) : IO UInt32 := do
  return (← SqlProbe.Cli.start words).toUInt32
