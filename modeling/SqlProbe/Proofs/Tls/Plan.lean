import Mathlib.Tactic.ByContra
import Mathlib.Tactic.Push
import SqlProbe.Tls.Plan

/-!
# What a handshake plan comes to

There is a plan exactly for settings that are valid and whose file with the authority's certificate
is there, unless nothing is encrypted anyway. The options of the encrypted handshake are those of
the mode, with the given authority as the only one that is trusted. A mode that verifies is not
valid without one.
-/

namespace SqlProbe.Tls

/-- A strict mode encrypts and does not go on without encryption. -/
theorem Mode.encrypts_of_strict {mode : Mode} (strict : mode ∈ [.require, .verifyCa, .verifyFull]) :
    mode ≠ .disable ∧ mode.fallsBack = false := by
  simp only [List.mem_cons, List.not_mem_nil, or_false] at strict
  rcases strict with rfl | rfl | rfl <;> decide

namespace Settings

/-- The settings can be put to use: they are valid, and the file that is needed is there. -/
structure Usable (fileExists : String → Bool) (tls : Settings) : Prop where
  valid : tls.validate = .ok ()
  found : tls.mode ≠ .disable → ∀ path, tls.caCert = some path → fileExists path = true

/-- The options of an encrypted handshake, where the file that is needed is there. -/
def options (tls : Settings) : Options :=
  { Options.ofMode tls with
    disableBuiltInRoots := tls.caCert.isSome
    rootCerts := tls.caCert.toList }

/-- The encrypted handshake, which there is unless the mode is `disable`. -/
def encrypted? (tls : Settings) : Option Options :=
  if tls.mode = .disable then none else some tls.options

/-- Settings of a mode that verifies are not valid without an authority. -/
theorem exists_caCert {tls : Settings} (valid : tls.validate = .ok ())
    (verifies : tls.mode.verifies = true) : ∃ path, tls.caCert = some path := by
  cases given : tls.caCert with
  | some path => exact ⟨path, rfl⟩
  | none =>
    rw [validate, if_pos ⟨verifies, given⟩] at valid
    cases valid

/-- What an encrypted handshake checks in a mode that verifies. -/
structure Verifies (tls : Settings) (options : Options) : Prop where
  refuses_invalid : options.acceptInvalidCerts = false
  /-- Only the given authority is trusted. -/
  trusts_authority : options.disableBuiltInRoots = true ∧
    ∃ path, tls.caCert = some path ∧ options.rootCerts = [path]
  checks_host : tls.mode = .verifyFull → options.skipDomainValidation = false

theorem verifies_options {tls : Settings} (valid : tls.validate = .ok ())
    (verifies : tls.mode.verifies = true) : tls.Verifies tls.options := by
  obtain ⟨path, given⟩ := exists_caCert valid verifies
  constructor
  · cases mode : tls.mode with
    | verifyCa | verifyFull => simp [options, Options.ofMode, mode]
    | _ => simp [mode, Mode.verifies] at verifies
  · exact ⟨by simp [options, given], path, given, by simp [options, given]⟩
  · intro full
    simp [options, Options.ofMode, full]

end Settings

namespace Plan

variable {fileExists : String → Bool} {tls : Settings}

theorem ofSettings_eq (found : ∀ path, tls.caCert = some path → fileExists path = true) :
    Options.ofSettings fileExists tls = .ok tls.options := by
  unfold Options.ofSettings Settings.options
  cases given : tls.caCert with
  | none =>
    unfold Options.ofMode
    cases tls.mode <;> rfl
  | some path => simp [found path given]

theorem make_of_usable (usable : tls.Usable fileExists) :
    make fileExists tls = .ok ⟨tls.mode, tls.encrypted?⟩ := by
  rw [make, usable.valid]
  dsimp only
  split
  · next plain => rw [Settings.encrypted?, if_pos plain]
  · next encrypts =>
    rw [ofSettings_eq (usable.found encrypts), Settings.encrypted?, if_neg encrypts]
    rfl

theorem make_of_not_usable (unusable : ¬ tls.Usable fileExists) :
    ∃ cause, make fileExists tls = .error cause := by
  unfold make
  cases valid : tls.validate with
  | error cause => exact ⟨_, rfl⟩
  | ok =>
    by_cases plain : tls.mode = .disable
    · exact absurd ⟨valid, fun encrypts => absurd plain encrypts⟩ unusable
    · have missing : ∃ path, tls.caCert = some path ∧ fileExists path = false := by
        by_contra found
        push Not at found
        refine unusable ⟨valid, fun _ path given => ?_⟩
        simpa using found path given
      obtain ⟨path, given, missing⟩ := missing
      refine ⟨.caNotFound path, ?_⟩
      simp [plain, Options.ofSettings, given, missing, Except.map]

/-- A plan for a strict mode has an encrypted handshake and no other. -/
theorem encrypted_of_strict {plan : Plan} (strict : tls.mode ∈ [.require, .verifyCa, .verifyFull])
    (made : make fileExists tls = .ok plan) :
    plan.encrypted.isSome = true ∧ ∀ cause, plan.retriesInPlaintext cause = false := by
  obtain ⟨encrypts, stays⟩ := Mode.encrypts_of_strict strict
  by_cases usable : tls.Usable fileExists
  · cases (make_of_usable usable).symm.trans made
    constructor
    · simp [Settings.encrypted?, encrypts]
    · simp [retriesInPlaintext, stays]
  · obtain ⟨cause, refused⟩ := make_of_not_usable usable
    cases refused.symm.trans made

end Plan

end SqlProbe.Tls
