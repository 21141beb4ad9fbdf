import SqlProbe.Mysql.Profile
import SqlProbe.Proofs.Target.Naming
import SqlProbe.Proofs.Target.Shapes
import SqlProbe.Settings.Resolve

/-!
# Targets over earlier layers

The text of a target is laid over what earlier layers have set by way of a configuration, in which
defaults stand for what the text does not name. So a default that was filled in passes for a name,
and a name that is a default passes for none.
-/

namespace SqlProbe.Layer

open Target

/-! ### What a target should leave and take -/

/-- The port is the one that the target names, unless that is 0, and else the one before. -/
def PortTaken (target : String) (before after : Config) : Prop :=
  after.port = ((namedPort? target).filter (· ≠ 0)).getD before.port

/-- A connect may take as long as the target says, and else as long as before. -/
def TimeoutTaken (target : String) (before after : Config) : Prop :=
  after.connectTimeout = (namedTimeout? target).getD before.connectTimeout

/-- The password is the one that the target names, if it names one. -/
def PasswordTaken (target : String) (after : Config) : Prop :=
  ∀ password, namedPassword? target = some password → after.password = some password

/-! ### What it does leave and take -/

/-- What the text of a target makes of a configuration. -/
structure Overlaid (target : String) (before after : Config) : Prop where
  /-- Without a port the target sets the default one. -/
  port : after.port =
    (namedPort? target).elim defaultPort fun port => if port = 0 then before.port else port
  /-- The default timeout is never set. -/
  connectTimeout : after.connectTimeout =
    ((namedTimeout? target).filter (· ≠ 10000)).getD before.connectTimeout
  /-- Without a user name no password is set, and with one there always is. -/
  password : after.password = if namedUser? target = none then before.password else
    some (((passwordProperty? target).or
      ((userinfoUser? target).bind fun _ => userinfoPassword? target)).getD "")

theorem overlaid_merge {target : String} {parsed : Config} (told : Told target parsed)
    (before : Config) : Overlaid target before (merge before parsed) where
  port := by
    change (if parsed.port = 0 then before.port else parsed.port) = _
    rw [told.port]
    cases namedPort? target with
    | none => rfl
    | some port => rfl
  connectTimeout := by
    change (if parsed.connectTimeout = 10000 then before.connectTimeout else parsed.connectTimeout) = _
    rw [told.connectTimeout]
    cases namedTimeout? target with
    | none => rfl
    | some timeout => by_cases default : timeout = 10000 <;> simp [Option.filter, default]
  password := by
    change (if parsed.username.isSome then some (parsed.password.getD "") else before.password) = _
    rw [told.username, told.password]
    cases namedUser? target with
    | none => rfl
    | some user =>
      cases passwordProperty? target with
      | some word => rfl
      | none => cases userinfoUser? target <;> rfl

section Overlaid
variable {target : String} {before after : Config} (overlaid : Overlaid target before after)
include overlaid

theorem portTaken_iff :
    PortTaken target before after ↔ namedPort? target ≠ none ∨ before.port = defaultPort := by
  rw [PortTaken, overlaid.port]
  cases namedPort? target with
  | none => simp [eq_comm]
  | some port => by_cases zero : port = 0 <;> simp [Option.filter, zero]

theorem timeoutTaken_iff : TimeoutTaken target before after ↔
    namedTimeout? target ≠ some 10000 ∨ before.connectTimeout = 10000 := by
  rw [TimeoutTaken, overlaid.connectTimeout]
  cases namedTimeout? target with
  | none => simp
  | some timeout => by_cases default : timeout = 10000 <;> simp [Option.filter, default]

theorem passwordTaken_iff : PasswordTaken target after ↔
    ∀ password, namedPassword? target = some password →
      if namedUser? target = none then before.password = some password
      else passwordProperty? target ≠ none ∨ userinfoUser? target ≠ none := by
  refine forall₂_congr fun password named => ?_
  rw [overlaid.password]
  by_cases nobody : namedUser? target = none
  · rw [if_pos nobody, if_pos nobody]
  · rw [if_neg nobody, if_neg nobody]
    rw [namedPassword?] at named
    cases property : passwordProperty? target with
    | some word =>
      rw [property] at named
      simpa using named
    | none =>
      rw [property, Option.none_or] at named
      have nonempty : password ≠ "" := by
        have kept := Option.filter_eq_some_iff.mp named
        simpa using kept.2
      cases userinfoUser? target with
      | none => simp [nonempty.symm]
      | some user => simp [named]

end Overlaid

theorem resolve_append_url {profile : Driver.Profile} {layers : List Layer} {target : String}
    {before parsed : Config} (earlier : resolve profile layers = .ok before)
    (accepted : profile.parseTarget target = .ok parsed) :
    resolve profile (layers ++ [{ url := some target }]) = .ok (merge before parsed) := by
  have last : apply profile before { url := some target } = .ok (merge before parsed) := by
    rw [apply, optionally, applyUrl, accepted]
    rfl
  rw [resolve] at earlier
  rw [resolve, List.foldlM_append, earlier]
  change List.foldlM (apply profile) before [_] = _
  rw [List.foldlM_cons, last]
  rfl

/-- A target behind other layers is taken for what it names, and leaves the rest, exactly if it names
a port, or the port before is the default one; if it does not name the default timeout, or that is
the timeout before; and if a password that it names comes with a user name, before the at sign for
one that stands there, or is the password before. -/
theorem resolve_url_last {layers : List Layer} {target : String} {before parsed : Config}
    (earlier : resolve Mysql.profile layers = .ok before)
    (accepted : Mysql.profile.parseTarget target = .ok parsed) :
    ∃ after, resolve Mysql.profile (layers ++ [{ url := some target }]) = .ok after ∧
      Overlaid target before after ∧
      (PortTaken target before after ↔ namedPort? target ≠ none ∨ before.port = defaultPort) ∧
      (TimeoutTaken target before after ↔
        namedTimeout? target ≠ some 10000 ∨ before.connectTimeout = 10000) ∧
      (PasswordTaken target after ↔
        ∀ password, namedPassword? target = some password →
          if namedUser? target = none then before.password = some password
          else passwordProperty? target ≠ none ∨ userinfoUser? target ≠ none) := by
  have overlaid := overlaid_merge (told_of_parse accepted) before
  exact ⟨_, resolve_append_url earlier accepted, overlaid, portTaken_iff overlaid,
    timeoutTaken_iff overlaid, passwordTaken_iff overlaid⟩

/-- A target that names all three, with a property under another spelling. -/
theorem resolve_url_last_credentials :
    let layers : List Layer := [{ port := some 3311, password := some "old" }]
    let target := "mysql://app:secret@db:3310/test?connect-timeout=2500"
    let before := { Config.mysqlDefault with
      host := "localhost", port := 3311, database := some "test", username := some "root"
      password := some "old" }
    let parsed := { Config.mysqlDefault with
      host := "db", port := 3310, database := some "test", username := some "app"
      password := some "secret", connectTimeout := 2500 }
    (resolve Mysql.profile layers = .ok before ∧ Mysql.profile.parseTarget target = .ok parsed) ∧
    ∃ after, resolve Mysql.profile (layers ++ [{ url := some target }]) = .ok after ∧
      PortTaken target before after ∧ TimeoutTaken target before after ∧
      PasswordTaken target after := by
  intro layers target before parsed
  have earlier : resolve Mysql.profile layers = .ok before := by decide +kernel
  have accepted : Mysql.profile.parseTarget target = .ok parsed := by decide +kernel
  have port : namedPort? target ≠ none := by decide +kernel
  have timeout : namedTimeout? target ≠ some 10000 := by decide +kernel
  have named : ¬ namedUser? target = none := by decide +kernel
  have user : userinfoUser? target ≠ none := by decide +kernel
  obtain ⟨after, resolved, -, ports, timeouts, passwords⟩ := resolve_url_last earlier accepted
  refine ⟨⟨earlier, accepted⟩, after, resolved, ports.mpr (.inl port), timeouts.mpr (.inl timeout),
    passwords.mpr fun password _ => ?_⟩
  rw [if_neg named]
  exact .inr user

/-- The default port passes for a name, the default timeout for none, and a password without a user
name is not looked at. -/
theorem defaults_pass_for_names :
    let layers : List Layer := [{ port := some 3310, connectTimeout := some 2500 }]
    let target := "mysql://:secret@db/test?connectTimeout=10000"
    ∃ before parsed after, resolve Mysql.profile layers = .ok before ∧
      Mysql.profile.parseTarget target = .ok parsed ∧
      resolve Mysql.profile (layers ++ [{ url := some target }]) = .ok after ∧
      ¬ PortTaken target before after ∧ ¬ TimeoutTaken target before after ∧
      ¬ PasswordTaken target after := by
  intro layers target
  let before := { Config.mysqlDefault with
    host := "localhost", port := 3310, database := some "test", username := some "root"
    password := some "", connectTimeout := 2500 }
  let parsed := { Config.mysqlDefault with host := "db", port := 3307, database := some "test" }
  have earlier : resolve Mysql.profile layers = .ok before := by decide +kernel
  have accepted : Mysql.profile.parseTarget target = .ok parsed := by decide +kernel
  have named : namedPassword? target = some "secret" := by decide +kernel
  refine ⟨before, parsed, merge before parsed, earlier, accepted,
    resolve_append_url earlier accepted, ?_, ?_, fun taken => ?_⟩
  · rw [PortTaken]
    decide +kernel
  · rw [TimeoutTaken]
    decide +kernel
  · exact absurd (taken "secret" named) (by decide)

end SqlProbe.Layer
