import SqlProbe.Cli.Command
import SqlProbe.Cli.Parameter
import SqlProbe.Text.Cut

/-!
# Levels of a command line

A command line has a level for the program and one behind the word of a command. Parameters may
stand on either, once on each. The value of a parameter may be joined to it or be the next word,
which then must not begin with a hyphen; it is looked at when the next parameter comes. Behind two
hyphens alone all words stand for themselves.
-/

namespace SqlProbe.Cli

/-- Where a value comes from; the command line goes before the environment. -/
inductive Source where
  | environment
  | words
  deriving DecidableEq, Repr

/-- A level of a command line. -/
inductive Scope where
  | program
  | command (word : String)
  deriving DecidableEq, Repr

/-- What has been read of a level. -/
structure Level where
  /-- The parameters that have their values. -/
  given : List (Parameter × String × Source) := []
  /-- The last parameter, whose value is awaited or has not been looked at. -/
  pending : Option (Parameter × Option String) := none
  /-- All further words stand for themselves. -/
  literal : Bool := false
  /-- The statement to run. -/
  statement : Option String := none

/-- The word that asks for help with a command. -/
def helpWord : String := "help"

/-- The word begins a level of its own. -/
def isCommandWord (word : String) : Bool :=
  word = helpWord || (Command.ofWord? word (some "")).isSome

namespace Level

/-- The value of a parameter and where it comes from. -/
def value? (level : Level) (parameter : Parameter) : Option (String × Source) :=
  level.given.lookup parameter

/-- The next word is the value of a parameter. -/
def awaitsValue (level : Level) : Bool :=
  match level.pending with
  | some (_, none) => true
  | _ => false

/-- Gives a parameter its value. -/
def give (level : Level) (parameter : Parameter) (value : String) (source : Source) :
    Except Refusal Level := do
  if (level.value? parameter).isSome then throw .repeated
  parameter.check value
  pure { level with given := (parameter, value, source) :: level.given }

/-- Looks at the value of the last parameter. -/
def settle (level : Level) : Except Refusal Level :=
  match level.pending with
  | none => .ok level
  | some (_, none) => .error .invalidValue
  | some (parameter, some value) => give { level with pending := none } parameter value .words

/-- Reads a parameter that takes a value, which is joined to it or is the next word. -/
def readValued (level : Level) (parameter : Parameter) (joined : Option String) :
    Except Refusal Level := do
  let level ← level.settle
  match joined with
  | some value => level.give parameter value .words
  | none => pure { level with pending := some (parameter, none) }

/-- Reads a request that ends the reading. -/
def readRequest {α : Type} (level : Level) (request : Refusal) (joined : Option String) :
    Except Refusal α := do
  if joined.isSome then throw .surplusValue
  let _ ← level.settle
  throw request

/-- Reads a word behind two hyphens. -/
def readLong (scope : Scope) (level : Level) (word : String) (joined : Option String) :
    Except Refusal Level :=
  match Parameter.ofWord? word with
  | some parameter =>
    if parameter.takesValue then level.readValued parameter joined
    else if joined.isSome then .error .surplusValue
    else do (← level.settle).give parameter "true" .words
  | none =>
    if word = helpWord then level.readRequest .help joined
    else if word = "version" ∧ scope = .program then level.readRequest .version joined
    else .error .unknownWord

/-- Reads a letter behind one hyphen, with what is joined to it. -/
def readShort (scope : Scope) (level : Level) (letter : Char) (joined : List Char) :
    Except Refusal Level :=
  match Parameter.ofLetter? letter with
  | some parameter =>
    level.readValued parameter <| match joined with
      | [] => none
      | '=' :: value => some (String.ofList value)
      | value => some (String.ofList value)
  | none =>
    if letter = 'h' then level.readRequest .help none
    else if letter = 'V' ∧ scope = .program then level.readRequest .version none
    else .error .unknownWord

/-- Reads a word that stands for itself: only a statement can. -/
def readLiteral (scope : Scope) (level : Level) (word : String) : Except Refusal Level :=
  match scope with
  | .program =>
    .error (if level.literal ∧ isCommandWord word then .unknownWord else .unknownCommand)
  | .command command =>
    if command = Command.queryWord ∧ level.statement.isNone then do
      pure { ← level.settle with statement := some word }
    else .error .unknownWord

/-- Reads a word. -/
def readWord (scope : Scope) (level : Level) (word : String) : Except Refusal Level :=
  if level.literal then level.readLiteral scope word
  else
    match word.toList with
    | ['-', '-'] => .ok { level with literal := true }
    | '-' :: '-' :: body =>
      match Text.cutAt? '=' body with
      | some (name, value) =>
        level.readLong scope (String.ofList name) (some (String.ofList value))
      | none => level.readLong scope (String.ofList body) none
    | '-' :: letter :: joined => level.readShort scope letter joined
    | _ =>
      match level.pending with
      | some (parameter, none) => .ok { level with pending := some (parameter, some word) }
      | _ => level.readLiteral scope word

/-- Reads words up to the one that begins another level; that word, and the words behind it. -/
def readWords (scope : Scope) (level : Level) :
    List String → Except Refusal (Level × Option (String × List String))
  | [] => .ok (level, none)
  | word :: rest =>
    if scope = .program ∧ !level.literal ∧ !level.awaitsValue ∧ isCommandWord word then
      .ok (level, some (word, rest))
    else do readWords scope (← level.readWord scope word) rest

/-- Gives a parameter that has no value that of its environment variable. -/
def giveVariable (environment : String → Option String) (level : Level) (parameter : Parameter) :
    Except Refusal Level :=
  if (level.value? parameter).isSome then .ok level
  else
    match parameter.standIn?.bind environment with
    | some value => level.give parameter value .environment
    | none => .ok level

/-- Ends a level: the last value is looked at, and environment variables fill in. -/
def finish (environment : String → Option String) (level : Level) : Except Refusal Level := do
  Parameter.all.foldlM (giveVariable environment) (← level.settle)

end Level

end SqlProbe.Cli
