import SqlProbe.Config
import SqlProbe.Properties.Basic
import SqlProbe.Properties.Normal

/-!
# Applying properties

How a bag of properties changes a configuration. A name is recognized up to case, hyphens and
underscores. The properties that choose the TLS mode come first, the explicit mode last of them, so
that it has the last word; the others follow in the order of their recognized names. A name that is
not recognized becomes a parameter as it is written.
-/

namespace SqlProbe.Properties

/-- The properties that have a meaning of their own. -/
inductive Meaning where
  | user
  | password
  | database
  | useSsl
  | requireSsl
  | sslMode
  | sslCa
  | sslCert
  | sslKey
  | serverTimeZone
  | characterEncoding
  | connectTimeout
  | readOnly
  deriving DecidableEq, Repr

/-- A name without case, hyphens and underscores. -/
def normalize (key : String) : String :=
  String.ofList ((Text.lower key.toList).filter fun c => c != '-' && c != '_')

/-- The meaning of a normalized name. -/
def Meaning.ofName? : String → Option Meaning
  | "user" => some user
  | "password" => some password
  | "databasename" | "dbname" => some database
  | "usessl" => some useSsl
  | "requiressl" => some requireSsl
  | "sslmode" => some sslMode
  | "sslca" => some sslCa
  | "sslcert" => some sslCert
  | "sslkey" => some sslKey
  | "servertimezone" => some serverTimeZone
  | "characterencoding" => some characterEncoding
  | "connecttimeout" => some connectTimeout
  | "readonly" => some readOnly
  | _ => none

/-- When a property is applied: the smaller the earlier. -/
def rank (normalized : String) : Nat :=
  match Meaning.ofName? normalized with
  | some .useSsl => 0
  | some .requireSsl => 1
  | some .sslMode => 2
  | _ => 3

/-- The parameter that holds the time zone of the server. -/
def timeZoneParam : String := "serverTimezone"

/-- The parameter that holds the character encoding. -/
def encodingParam : String := "characterEncoding"

/-- The parameter that says whether the session only reads. -/
def readOnlyParam : String := "readOnly"

/-- Changes a configuration by one property with a meaning. -/
def applyMeaning (config : Config) (meaning : Meaning) (key value : String) :
    Except Error Config :=
  match meaning with
  | .user => .ok { config with username := some value }
  | .password => .ok { config with password := some value }
  | .database => .ok { config with database := Config.databaseNamed value }
  | .useSsl => do
    if ← flag key value then
      if config.tls.mode = .disable then
        pure { config with tls := { config.tls with mode := .prefer } }
      else pure config
    else pure { config with tls := .disabled }
  | .requireSsl => do
    if ← flag key value then pure { config with tls := { config.tls with mode := .require } }
    else pure config
  | .sslMode => do
    let mode ← Tls.Mode.parse value
    pure { config with tls := { config.tls with mode, verifyServer := mode.verifies } }
  | .sslCa => .ok { config with tls := { config.tls with caCert := some value } }
  | .sslCert => .ok { config with tls := { config.tls with clientCert := some value } }
  | .sslKey => .ok { config with tls := { config.tls with clientKey := some value } }
  | .serverTimeZone => do
    pure { config with params := config.params.insert timeZoneParam (← timeZone value) }
  | .characterEncoding => do
    let encoding ← Properties.characterEncoding value
    pure { config with params := config.params.insert encodingParam encoding }
  | .connectTimeout => do pure { config with connectTimeout := ← milliseconds key value }
  | .readOnly => do
    let text := if ← flag key value then "true" else "false"
    pure { config with params := config.params.insert readOnlyParam text }

/-- Changes a configuration by one property. -/
def applyOne (config : Config) (entry : String × String) : Except Error Config :=
  match Meaning.ofName? (normalize entry.1) with
  | some meaning => applyMeaning config meaning entry.1 entry.2
  | none => .ok { config with params := config.params.insert entry.1 entry.2 }

/-- One property is applied no later than another. -/
def appliedBefore (a b : String × String) : Bool :=
  let key (entry : String × String) := (rank (normalize entry.1), normalize entry.1, entry.1)
  let (ra, na, ka) := key a
  let (rb, nb, kb) := key b
  ra < rb || (ra == rb && (na < nb || (na == nb && !(kb < ka))))

/-- The properties in the order in which they are applied. -/
def ordered (bag : Properties) : List (String × String) := bag.entries.mergeSort appliedBefore

/-- Changes a configuration by the properties of a bag. -/
def applyTo (bag : Properties) (config : Config) : Except Error Config :=
  bag.ordered.foldlM applyOne config

end SqlProbe.Properties
