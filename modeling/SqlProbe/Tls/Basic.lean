import SqlProbe.Error
import SqlProbe.Json.Record
import SqlProbe.Text.Ascii
import SqlProbe.Text.Blank
import SqlProbe.Text.Cut

/-!
# Transport security

How a connection is to be secured. The modes are ordered by strictness: the lenient ones try
encryption and may go on without it, the strict ones do not, and the two strictest also check the
certificate of the server.
-/

namespace SqlProbe.Tls

/-- How strictly a connection is secured. -/
inductive Mode where
  | disable
  | allow
  | prefer
  | require
  | verifyCa
  | verifyFull
  deriving DecidableEq, Repr

namespace Mode

/-- Every mode, the most lenient first. -/
def all : List Mode := [disable, allow, prefer, require, verifyCa, verifyFull]

/-- The place of a mode in the order of strictness. -/
def strictness : Mode → Nat
  | disable => 0
  | allow => 1
  | prefer => 2
  | require => 3
  | verifyCa => 4
  | verifyFull => 5

/-- The mode needs a certificate authority to check the server with. -/
def verifies : Mode → Bool
  | verifyCa | verifyFull => true
  | _ => false

/-- The mode goes on without encryption where that fails. -/
def fallsBack : Mode → Bool
  | allow | prefer => true
  | _ => false

/-- The name of a mode in settings. -/
def name : Mode → String
  | disable => "disable"
  | allow => "allow"
  | prefer => "prefer"
  | require => "require"
  | verifyCa => "verify_ca"
  | verifyFull => "verify_full"

/-- The name of a mode among the options of a server. -/
def serverName : Mode → String
  | disable => "DISABLED"
  | allow | prefer => "PREFERRED"
  | require => "REQUIRED"
  | verifyCa => "VERIFY_CA"
  | verifyFull => "VERIFY_IDENTITY"

/-- The mode of a name in lower case with underscores. -/
def ofName? : String → Option Mode
  | "disable" | "disabled" => some disable
  | "allow" => some allow
  | "prefer" | "preferred" => some prefer
  | "require" | "required" => some require
  | "verify_ca" => some verifyCa
  | "verify_full" | "verify_identity" => some verifyFull
  | _ => none

/-- The name that is looked up for a text: without blanks around it, in lower case and with
underscores for hyphens. -/
def spelled (text : String) : String :=
  String.ofList (Text.replaceChar '-' '_' (Text.lower (Text.trim text.toList)))

/-- The mode that a text names, in the spelling of settings or of a server. -/
def parse (text : String) : Except Error Mode :=
  match ofName? (spelled text) with
  | some mode => .ok mode
  | none => .error ⟨.configuration, s!"unknown TLS mode '{spelled text}'"⟩

/-- Reads the JSON form of a mode. -/
def ofJson? : Json → Option Mode
  | .string name => all.find? fun mode => mode.name == name
  | .object [(name, .null)] => all.find? fun mode => mode.name == name
  | _ => none

end Mode

/-- How a connection is to be secured. -/
structure Settings where
  mode : Mode := .disable
  /-- The file with the certificate of the authority that vouches for the server. -/
  caCert : Option String := none
  /-- The file with the certificate of the client. -/
  clientCert : Option String := none
  /-- The file with the key of the client. -/
  clientKey : Option String := none
  /-- The certificate of the server is checked. -/
  verifyServer : Bool := mode.verifies
  deriving DecidableEq, Repr

namespace Settings

/-- The settings of a mode, without certificates. -/
def ofMode (mode : Mode) : Settings := { mode }

/-- No transport security. -/
def disabled : Settings := ofMode .disable

/-- The error for a path that is given but empty. -/
def emptyPath (label : String) : Error := ⟨.configuration, label ++ " path cannot be empty"⟩

/-- Checks that a path is not given or not empty. -/
def checkPath (label : String) (path : Option String) : Except Error Unit :=
  if path = some "" then .error (emptyPath label) else .ok ()

/-- Checks that the settings can be used: a mode that verifies has an authority, no path is empty,
and certificate and key of the client come together. -/
def validate (tls : Settings) : Except Error Unit := do
  if tls.mode.verifies ∧ tls.caCert = none then
    throw ⟨.configuration, "TLS mode requires CA certificate but none provided"⟩
  checkPath "CA certificate" tls.caCert
  checkPath "Client certificate" tls.clientCert
  checkPath "Client key" tls.clientKey
  match tls.clientCert, tls.clientKey with
  | some _, none =>
    throw ⟨.configuration, "Client certificate provided but client key is missing"⟩
  | none, some _ =>
    throw ⟨.configuration, "Client key provided but client certificate is missing"⟩
  | _, _ => pure ()

/-- The settings as parameters of a query string. -/
def parameters (tls : Settings) : String :=
  let given (name : String) (path : Option String) : List String :=
    (path.map fun path => name ++ "=" ++ path).toList
  "&".intercalate (["ssl-mode=" ++ tls.mode.serverName] ++ given "ssl-ca" tls.caCert ++
    given "ssl-cert" tls.clientCert ++ given "ssl-key" tls.clientKey)

/-- The JSON form of the settings. -/
def toJson (tls : Settings) : Json :=
  .object [("mode", .string tls.mode.name), ("ca_cert", .orNull .string tls.caCert),
    ("client_cert", .orNull .string tls.clientCert), ("client_key", .orNull .string tls.clientKey),
    ("verify_server", .bool tls.verifyServer)]

/-- Reads the JSON form of the settings. Where it does not say so, the server is verified. -/
def ofJson? (json : Json) : Option Settings := do
  let parts ← json.parts? ["mode", "ca_cert", "client_cert", "client_key", "verify_server"]
  pure {
    mode := ← parts.required 0 Mode.ofJson?
    caCert := ← parts.defaulted 1 none (Json.asOption? Json.asString?)
    clientCert := ← parts.defaulted 2 none (Json.asOption? Json.asString?)
    clientKey := ← parts.defaulted 3 none (Json.asOption? Json.asString?)
    verifyServer := ← parts.defaulted 4 true Json.asBool? }

end Settings

end SqlProbe.Tls
