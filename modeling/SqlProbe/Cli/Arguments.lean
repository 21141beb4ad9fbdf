import SqlProbe.Cli.Level

/-!
# Arguments

What a command line and the environment ask for. A parameter counts on either level; where it is on
both, the one behind the command counts, unless that comes from the environment and the other does
not.
-/

namespace SqlProbe.Cli

/-- What the program is asked for. -/
structure Arguments where
  /-- Without a command all probes are run. -/
  command : Option Command := none
  target : Layer := {}
  /-- The settings file that is named. -/
  config : Option String := none
  format : Format := .text
  /-- A failed step makes the run fail. -/
  strict : Bool := false
  logLevel : String := "warn"
  logJson : Bool := false

namespace Arguments

/-- The value that counts of those on the two levels. -/
def choose (outer inner : Option (String × Source)) : Option String :=
  match outer, inner with
  | some (value, .words), some (_, .environment) => some value
  | _, some (value, _) => some value
  | some (value, _), none => some value
  | none, none => none

/-- The arguments of a command and the values of parameters. -/
def ofValues (command : Option Command) (value? : Parameter → Option String) : Arguments where
  command := command
  target := {
    url := value? .url
    host := value? .host
    port := (value? .port).bind port?
    database := value? .database
    user := value? .user
    password := value? .password
    connectTimeout := (value? .connectTimeout).bind millis? }
  config := value? .config
  format := ((value? .format).bind Format.ofName?).getD .text
  strict := (value? .strict).isSome
  logLevel := (value? .logLevel).getD "warn"
  logJson := (value? .logJson).isSome

/-- The answer to a request for help with some words, of which one command can be explained. -/
def helpRefusal : List String → Refusal
  | [] => .help
  | [word] => if isCommandWord word then .help else .unknownCommand
  | _ => .unknownCommand

/-- Reads the level behind the word of a command. -/
def readCommand (environment : String → Option String) (word : String) (words : List String) :
    Except Refusal (Command × Level) := do
  if word = helpWord then throw (helpRefusal words)
  let (level, _) ← Level.readWords (.command word) {} words
  let level ← level.finish environment
  match Command.ofWord? word level.statement with
  | some command => pure (command, level)
  | none => throw .noStatement

/-- Reads a command line. -/
def read (environment : String → Option String) (words : List String) :
    Except Refusal Arguments := do
  let (outer, rest) ← Level.readWords .program {} words
  match rest with
  | none =>
    let outer ← outer.finish environment
    pure (ofValues none fun parameter => choose (outer.value? parameter) none)
  | some (word, rest) =>
    let (command, inner) ← readCommand environment word rest
    let outer ← outer.finish environment
    pure (ofValues (some command) fun parameter =>
      choose (outer.value? parameter) (inner.value? parameter))

/-- The probes to run. -/
def probes (arguments : Arguments) : List Probe := (arguments.command.getD .all).probes

end Arguments

end SqlProbe.Cli
