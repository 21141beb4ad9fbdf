import SqlProbe.Text.Numeral

/-!
# Parameters

What can be set on the command line, with the words and letters for it, the environment variables
that stand in for it, and the values that it takes.
-/

namespace SqlProbe.Cli

/-- Why a command line is not run. -/
inductive Refusal where
  /-- It asks for help instead. -/
  | help
  /-- It asks for the version instead. -/
  | version
  /-- A value is missing, or is none of those allowed. -/
  | invalidValue
  /-- A value is not a number in its range. -/
  | unreadableValue
  /-- A value is given to what takes none. -/
  | surplusValue
  | unknownWord
  | unknownCommand
  /-- A parameter is given twice. -/
  | repeated
  /-- The statement to run is missing. -/
  | noStatement
  deriving DecidableEq, Repr

/-- The exit code of a command line that is not run. -/
def Refusal.exitCode : Refusal → Nat
  | help => 0
  | version => 0
  | _ => 2

/-- How reports are written. -/
inductive Format where
  | text
  | json
  deriving DecidableEq, Repr

/-- The format with a name. -/
def Format.ofName? : String → Option Format
  | "text" => some text
  | "json" => some json
  | _ => none

/-- The number of a port. -/
def port? (value : String) : Option UInt16 :=
  (Text.integer? 0 65535 value.toList).map fun n => n.toNat.toUInt16

/-- A number of milliseconds. -/
def millis? (value : String) : Option Nat := Text.natural? (Nat.pow 2 64 - 1) value.toList

/-- A parameter of the command line. -/
inductive Parameter where
  | host
  | port
  | database
  | user
  | password
  | url
  | config
  | format
  | strict
  | connectTimeout
  | logLevel
  | logJson
  deriving DecidableEq, Repr

namespace Parameter

/-- Every parameter, in the order in which environment variables are looked up. -/
def all : List Parameter :=
  [host, port, database, user, password, url, config, format, strict, connectTimeout, logLevel,
    logJson]

/-- The word for a parameter, which stands behind two hyphens. -/
def word : Parameter → String
  | host => "host"
  | port => "port"
  | database => "database"
  | user => "user"
  | password => "password"
  | url => "url"
  | config => "config"
  | format => "format"
  | strict => "strict"
  | connectTimeout => "connect-timeout"
  | logLevel => "log-level"
  | logJson => "log-json"

/-- The parameter of a word. -/
def ofWord? (word : String) : Option Parameter := all.find? fun parameter => parameter.word == word

/-- The parameter of a letter, which stands behind one hyphen. -/
def ofLetter? : Char → Option Parameter
  | 'u' => some user
  | 'p' => some password
  | _ => none

/-- The parameter has a value; the others are there or are not. -/
def takesValue : Parameter → Bool
  | strict => false
  | logJson => false
  | _ => true

/-- The environment variable that stands in for a parameter. -/
def standIn? : Parameter → Option String
  | host => some "TINYPROBE_HOST"
  | port => some "TINYPROBE_PORT"
  | database => some "TINYPROBE_DATABASE"
  | user => some "TINYPROBE_USER"
  | password => some "TINYPROBE_PASSWORD"
  | url => some "TINYPROBE_URL"
  | config => some "TINYPROBE_CONFIG"
  | format => some "TINYPROBE_FORMAT"
  | strict => none
  | connectTimeout => some "TINYPROBE_CONNECT_TIMEOUT"
  | logLevel => some "TINYPROBE_LOG_LEVEL"
  | logJson => none

/-- Checks a value of a parameter. -/
def check (parameter : Parameter) (value : String) : Except Refusal Unit :=
  match parameter with
  | port => if (port? value).isSome then .ok () else .error .unreadableValue
  | connectTimeout => if (millis? value).isSome then .ok () else .error .unreadableValue
  | config => if value = "" then .error .invalidValue else .ok ()
  | format => if (Format.ofName? value).isSome then .ok () else .error .invalidValue
  | _ => .ok ()

end Parameter

end SqlProbe.Cli
