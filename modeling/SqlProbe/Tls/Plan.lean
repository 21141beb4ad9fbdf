import SqlProbe.Tls.Basic

/-!
# Handshake plans

Which handshakes a connect may make. A plan is drawn up before the first of them, from the settings
and from which files exist; it has an encrypted handshake unless the mode is `disable`, and goes on
in plaintext only in the lenient modes and only after an error other than a timeout.
-/

namespace SqlProbe.Tls

/-- The options of an encrypted handshake. -/
structure Options where
  acceptInvalidCerts : Bool := false
  skipDomainValidation : Bool := false
  /-- Only the given root certificates are trusted. -/
  disableBuiltInRoots : Bool := false
  /-- The files with the root certificates. -/
  rootCerts : List String := []
  deriving DecidableEq, Repr

/-- Why there is no plan. -/
inductive PlanError where
  | invalid (cause : Error)
  | caNotFound (path : String)
  deriving DecidableEq, Repr

/-- The error of a plan, as a connect reports it. -/
def PlanError.toError : PlanError → Error
  | invalid cause => ⟨.security, "Invalid TLS configuration: " ++ cause.message⟩
  | caNotFound path =>
    ⟨.security, "Failed to load CA certificate from " ++ path ++ ": file not found"⟩

/-- The handshakes that one connect may make. -/
structure Plan where
  mode : Mode
  /-- The encrypted handshake, which is the first if there is one. -/
  encrypted : Option Options
  deriving DecidableEq, Repr

namespace Options

/-- What the mode asks to be checked. -/
def ofMode (tls : Settings) : Options :=
  match tls.mode with
  | .verifyFull => {}
  | .verifyCa => { skipDomainValidation := true }
  | _ => { acceptInvalidCerts := true, skipDomainValidation := !tls.verifyServer }

/-- The options of the settings' encrypted handshake. -/
def ofSettings (fileExists : String → Bool) (tls : Settings) : Except PlanError Options :=
  match tls.caCert with
  | none => .ok (ofMode tls)
  | some path =>
    if fileExists path then
      .ok { ofMode tls with disableBuiltInRoots := true, rootCerts := [path] }
    else .error (.caNotFound path)

end Options

namespace Plan

/-- The plan for the settings. -/
def make (fileExists : String → Bool) (tls : Settings) : Except PlanError Plan :=
  match tls.validate with
  | .error cause => .error (.invalid cause)
  | .ok () =>
    if tls.mode = .disable then .ok ⟨tls.mode, none⟩
    else (Options.ofSettings fileExists tls).map fun options => ⟨tls.mode, some options⟩

/-- After this error of the encrypted handshake another is made in plaintext. -/
def retriesInPlaintext (plan : Plan) (error : Error) : Bool :=
  plan.encrypted.isSome && plan.mode.fallsBack && error.kind != .timeout

end Plan

end SqlProbe.Tls
