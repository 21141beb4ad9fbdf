import SqlProbe.Mysql.Client
import SqlProbe.Proofs.Driver.Recording
import SqlProbe.Proofs.Tls.Plan

/-!
# The handshakes of a connect

Which handshakes a connect makes is put on record as they begin, by a client that otherwise behaves
as it would without. The first of them is the encrypted one of the plan, or one in plaintext where
nothing is to be encrypted; a second one, in plaintext, follows exactly where the mode goes on
without encryption and the first has failed in time. So nothing is sent over a weaker channel than
the mode allows, however the handshakes end.
-/

namespace SqlProbe

/-- An exchange behind another starts where the other has ended. -/
theorem Exchange.run_andThen {σ ε α δ β : Type} (first : Exchange σ ε α)
    (next : Except ε α → Exchange σ δ β) (s : σ) :
    (first.andThen next).run s = (next (first.run s).1).run (first.run s).2 := rfl

/-- The network with a record of how the handshakes on it are encrypted. -/
def Mysql.Network.recorded {σ : Type} (network : Mysql.Network σ) :
    Mysql.Network (σ × List (Option Tls.Options)) where
  handshake made := (network.handshake made).announced [made.encryption]
  ask connection sql := (network.ask connection sql).announced []
  ping connection := (network.ping connection).announced []
  disconnect connection := (network.disconnect connection).announced []

namespace Mysql.Client

open Tls (Options)

variable {σ : Type}

/-! ### Records -/

/-- A way to attempt handshakes: with the given options, or in plaintext without. -/
abbrev Attempt (σ : Type) := Config → Option Options → Exchange (Client σ) Error Greeting

/-- The client without the record. -/
def unrecorded (client : Client (σ × List (Option Options))) : Client σ :=
  { network := client.network.1, links := client.links }

/-- The client with a record. -/
def withRecord (client : Client σ) (record : List (Option Options)) :
    Client (σ × List (Option Options)) :=
  { network := (client.network, record), links := client.links }

/-- The same way to attempt handshakes, each of which is put on record as it begins. -/
def recorded (attempt : Attempt σ) : Attempt (σ × List (Option Options)) :=
  fun config encryption =>
    { start := fun client => ((attempt config encryption).start client.unrecorded).withRecord
        (client.network.2 ++ [encryption])
      span := fun client => (attempt config encryption).span client.unrecorded
      finish := fun client =>
        let (outcome, after) := (attempt config encryption).finish client.unrecorded
        (outcome, after.withRecord client.network.2) }

/-- The handshakes that a connect makes. -/
def handshakesMade (fileExists : String → Bool) (attempt : Attempt σ) (config : Config)
    (client : Client σ) : List (Option Options) :=
  ((connect fileExists (recorded attempt) config).run (client.withRecord [])).2.network.2

section

variable (attempt : Attempt σ) (config : Config) (client : Client σ)

theorem run_recorded (encryption : Option Options) (record : List (Option Options)) :
    (recorded attempt config encryption).run (client.withRecord record) =
      (((attempt config encryption).run client).1,
        ((attempt config encryption).run client).2.withRecord (record ++ [encryption])) := rfl

/-! ### Plans -/

theorem run_handshakes (attempt : Option Options → Exchange (Client σ) Error Greeting)
    (plan : Tls.Plan) :
    (handshakes attempt plan).run client =
      match (attempt plan.encrypted).run client with
      | (.error cause, after) =>
        if plan.retriesInPlaintext cause then (attempt none).run after else (.error cause, after)
      | (.ok greeting, after) => (.ok greeting, after) := by
  rw [handshakes, Exchange.run_andThen]
  generalize (attempt plan.encrypted).run client = ended
  obtain ⟨cause | greeting, after⟩ := ended
  · dsimp only
    split <;> rfl
  · rfl

/-- The plaintext handshake behind another that has ended in the given way. -/
def fallback (plan : Tls.Plan) : Except Error Greeting → List (Option Options)
  | .error cause => if plan.retriesInPlaintext cause then [none] else []
  | .ok _ => []

theorem fallback_cases (plan : Tls.Plan) (outcome : Except Error Greeting) :
    fallback plan outcome = [] ∨ fallback plan outcome = [none] := by
  cases outcome with
  | ok greeting => exact .inl rfl
  | error cause =>
    dsimp only [fallback]
    split
    · exact .inr rfl
    · exact .inl rfl

theorem fallback_of_strict {plan : Tls.Plan} (strict : plan.mode.fallsBack = false)
    (outcome : Except Error Greeting) : fallback plan outcome = [] := by
  cases outcome <;> simp [fallback, Tls.Plan.retriesInPlaintext, strict]

theorem fallback_eq_plaintext_iff {mode : Tls.Mode} {options : Options}
    (lenient : mode.fallsBack = true) {outcome : Except Error Greeting} :
    fallback ⟨mode, some options⟩ outcome = [none] ↔
      ∃ cause, outcome = .error cause ∧ cause.kind ≠ .timeout := by
  cases outcome <;> simp [fallback, Tls.Plan.retriesInPlaintext, lenient]

/-- The handshakes of a plan end as they do without a record, and on record is the first of them,
with one in plaintext behind it if the plan wants that. -/
theorem run_handshakes_recorded (plan : Tls.Plan) :
    (handshakes (recorded attempt config) plan).run (client.withRecord []) =
      (((handshakes (attempt config) plan).run client).1,
        ((handshakes (attempt config) plan).run client).2.withRecord
          (plan.encrypted :: fallback plan ((attempt config plan.encrypted).run client).1)) := by
  rw [run_handshakes, run_handshakes, run_recorded]
  generalize (attempt config plan.encrypted).run client = ended
  obtain ⟨cause | greeting, after⟩ := ended
  · dsimp only [fallback]
    split
    · exact run_recorded attempt config after none [plan.encrypted]
    · rfl
  · rfl

variable {fileExists : String → Bool} {plan : Tls.Plan}

/-- With a plan, a connect makes its handshakes and keeps the connection if they succeed. -/
theorem run_connect (made : Tls.Plan.make fileExists config.tls = .ok plan) :
    (connect fileExists attempt config).run client =
      match (handshakes (attempt config) plan).run client with
      | (.error cause, after) => (.error cause, after)
      | (.ok greeting, after) =>
        (.ok (after.keep config greeting).1, (after.keep config greeting).2) := by
  rw [connect, made]
  rfl

theorem handshakesMade_of_plan (made : Tls.Plan.make fileExists config.tls = .ok plan) :
    handshakesMade fileExists attempt config client =
      plan.encrypted :: fallback plan ((attempt config plan.encrypted).run client).1 := by
  unfold handshakesMade
  rw [run_connect _ _ _ made, run_handshakes_recorded]
  generalize (handshakes (attempt config) plan).run client = ended
  obtain ⟨cause | greeting, after⟩ := ended <;> rfl

theorem handshakesMade_of_error {cause : Tls.PlanError}
    (made : Tls.Plan.make fileExists config.tls = .error cause) :
    handshakesMade fileExists attempt config client = [] := by
  rw [handshakesMade, connect, made]
  rfl

/-- A connect whose handshakes are put on record ends as it does without the record. -/
theorem run_connect_recorded :
    (connect fileExists (recorded attempt) config).run (client.withRecord []) =
      (((connect fileExists attempt config).run client).1,
        ((connect fileExists attempt config).run client).2.withRecord
          (handshakesMade fileExists attempt config client)) := by
  cases made : Tls.Plan.make fileExists config.tls with
  | error cause =>
    rw [handshakesMade_of_error _ _ _ made, connect, connect, made]
    rfl
  | ok plan =>
    rw [handshakesMade_of_plan _ _ _ made, run_connect _ _ _ made, run_connect _ _ _ made,
      run_handshakes_recorded]
    generalize (handshakes (attempt config) plan).run client = ended
    obtain ⟨cause | greeting, after⟩ := ended <;> rfl

end

/-! ### Networks -/

theorem recorded_attempt (network : Network σ) :
    recorded (attempt network) = attempt network.recorded := by
  funext config encryption
  refine congrArg (Exchange.mk _ _) (funext fun client => ?_)
  dsimp only [attempt, Exchange.within]
  split
  · next inTime => exact (if_pos inTime).symm
  · next late => exact (if_neg late).symm

/-- On a network, the handshakes on record are those that reach it. -/
theorem handshakesMade_attempt (fileExists : String → Bool) (network : Network σ) (config : Config)
    (client : Client σ) : handshakesMade fileExists (attempt network) config client =
      (((driver fileExists network.recorded).connect config).run
        (client.withRecord [])).2.network.2 := by
  rw [handshakesMade, recorded_attempt]
  rfl

/-! ### Modes -/

/-- The handshakes made under some settings, where each ends in the given way, are those that the
mode allows. -/
structure Allowed (fileExists : String → Bool) (tls : Tls.Settings)
    (outcome : Option Options → Except Error Greeting) (made : List (Option Options)) : Prop where
  none_of_invalid : ∀ cause, tls.validate = .error cause → made = []
  none_of_missing : tls.mode ≠ .disable →
    (∃ path, tls.caCert = some path ∧ fileExists path = false) → made = []
  plaintext : tls.Usable fileExists → tls.mode = .disable → made = [none]
  encrypted : tls.Usable fileExists → tls.mode ∈ [.require, .verifyCa, .verifyFull] →
    ∃ options, made = [some options]
  /-- The second handshake is made exactly where the first has failed, and not for its time. -/
  lenient : tls.Usable fileExists → tls.mode ∈ [.allow, .prefer] →
    ∃ options behind, made = some options :: behind ∧ (behind = [] ∨ behind = [none]) ∧
      (behind = [none] ↔ ∃ cause, outcome (some options) = .error cause ∧ cause.kind ≠ .timeout)
  verified : tls.mode.verifies = true → ∀ options, some options ∈ made → tls.Verifies options

section

variable {fileExists : String → Bool} {tls : Tls.Settings}

theorem allowed_nil (unusable : ¬ tls.Usable fileExists)
    (outcome : Option Options → Except Error Greeting) : Allowed fileExists tls outcome [] where
  none_of_invalid _ _ := rfl
  none_of_missing _ _ := rfl
  plaintext usable := absurd usable unusable
  encrypted usable := absurd usable unusable
  lenient usable := absurd usable unusable
  verified _ _ member := nomatch member

theorem allowed_of_usable (usable : tls.Usable fileExists)
    (outcome : Option Options → Except Error Greeting) :
    Allowed fileExists tls outcome
      (tls.encrypted? :: fallback ⟨tls.mode, tls.encrypted?⟩ (outcome tls.encrypted?)) where
  none_of_invalid cause invalid := by simp [usable.valid] at invalid
  none_of_missing encrypts missing := by
    obtain ⟨path, given, missing⟩ := missing
    simp [usable.found encrypts path given] at missing
  plaintext _ plain := by
    rw [Tls.Settings.encrypted?, if_pos plain, fallback_of_strict (by rw [plain]; rfl)]
  encrypted _ strict := by
    obtain ⟨encrypts, stays⟩ := Tls.Mode.encrypts_of_strict strict
    exact ⟨tls.options, by rw [Tls.Settings.encrypted?, if_neg encrypts, fallback_of_strict stays]⟩
  lenient _ lenient := by
    have encrypts : tls.mode ≠ .disable := fun plain => by simp [plain] at lenient
    have goesOn : tls.mode.fallsBack = true := by
      cases mode : tls.mode <;> simp [mode, Tls.Mode.fallsBack] at lenient ⊢
    rw [Tls.Settings.encrypted?, if_neg encrypts]
    exact ⟨tls.options, _, rfl, fallback_cases _ _, fallback_eq_plaintext_iff goesOn⟩
  verified verifies options member := by
    have encrypts : tls.mode ≠ .disable := fun plain => by
      simp [plain, Tls.Mode.verifies] at verifies
    have stays : tls.mode.fallsBack = false := by
      cases mode : tls.mode <;> simp [mode, Tls.Mode.fallsBack, Tls.Mode.verifies] at verifies ⊢
    rw [Tls.Settings.encrypted?, if_neg encrypts, fallback_of_strict stays] at member
    obtain rfl : options = tls.options := by simpa using member
    exact Tls.Settings.verifies_options usable.valid verifies

end

/-- However its handshakes end, a connect makes those that the mode of its settings allows. -/
theorem handshakesMade_allowed (fileExists : String → Bool) (attempt : Attempt σ) (config : Config)
    (client : Client σ) :
    Allowed fileExists config.tls (fun encryption => ((attempt config encryption).run client).1)
      (handshakesMade fileExists attempt config client) := by
  by_cases usable : config.tls.Usable fileExists
  · exact handshakesMade_of_plan attempt config client (Tls.Plan.make_of_usable usable) ▸
      allowed_of_usable usable _
  · obtain ⟨cause, unmade⟩ := Tls.Plan.make_of_not_usable usable
    exact handshakesMade_of_error attempt config client unmade ▸ allowed_nil usable _

end Mysql.Client

end SqlProbe
