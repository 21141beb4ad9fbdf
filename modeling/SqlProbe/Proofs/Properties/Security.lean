import SqlProbe.Proofs.Properties.Spelling
import SqlProbe.Proofs.Tls.Plan

/-!
# How properties secure a connection

Three properties choose how strictly a connection is secured, and they are applied before all others:
`useSSL`, `requireSSL` and `sslMode`, the explicit mode last. Nothing behind an explicit mode touches
the mode again. Without one the order does not matter: `requireSSL` puts its own mode in the place of
whatever the base had, while `useSSL` only replaces the mode that secures nothing.
-/

namespace SqlProbe.Properties

/-! ### What chooses the mode -/

/-- The meaning of the properties that choose the mode of transport security by this change. -/
def Change.modeMeaning? : Change → Option Meaning
  | useTls _ => some .useSsl
  | requireTls _ => some .requireSsl
  | tlsMode _ => some .sslMode
  | _ => none

/-- A property that changes the mode has the meaning that belongs to the change. -/
theorem means_of_modeMeaning? {entry : String × String} {made : Change} {meaning : Meaning}
    (stands : change entry = .ok made) (chooses : made.modeMeaning? = some meaning) :
    Meaning.ofName? (normalize entry.1) = some meaning := by
  unfold change at stands
  split at stands
  · next other means =>
    rw [means]
    cases other with
    | user | password | database | sslCa | sslCert | sslKey =>
      cases stands
      cases chooses
    | useSsl | requireSsl | sslMode =>
      rw [changeOf] at stands
      obtain ⟨value, -, rfl⟩ := exists_of_map stands
      exact chooses
    | _ =>
      rw [changeOf] at stands
      obtain ⟨value, -, rfl⟩ := exists_of_map stands
      cases chooses
  · cases stands
    cases chooses

/-- The properties that make a change of the mode are those of one name, with a value for it. -/
theorem change_eq_ok_iff {entry : String × String} {made : Change} {meaning : Meaning} {name : String}
    (chooses : made.modeMeaning? = some meaning) (means : Meaning.ofName? name = some meaning) :
    change entry = .ok made ↔
      normalize entry.1 = name ∧ changeOf meaning entry.1 entry.2 = .ok made := by
  constructor
  · intro stands
    have own := means_of_modeMeaning? stands chooses
    refine ⟨Meaning.eq_of_ofName? own means ?_, change_of_meaning own entry.2 ▸ stands⟩
    rintro rfl
    cases made <;> cases chooses
  · rintro ⟨rfl, stands⟩
    exact (change_of_meaning means entry.2).trans stands

theorem map_eq_ok_iff {ε α β : Type} {result : Except ε α} {make : α → β} {value : α}
    (apart : Function.Injective make) : result.map make = .ok (make value) ↔ result = .ok value := by
  refine ⟨fun same => ?_, fun same => same ▸ rfl⟩
  obtain ⟨other, read, made⟩ := exists_of_map same
  exact read.trans (congrArg _ (apart made))

theorem change_useTls_iff {entry : String × String} {on : Bool} : change entry = .ok (.useTls on) ↔
    normalize entry.1 = "usessl" ∧ flag entry.1 entry.2 = .ok on := by
  rw [change_eq_ok_iff rfl (rfl : Meaning.ofName? "usessl" = some .useSsl), changeOf,
    map_eq_ok_iff fun _ _ => Change.useTls.inj]

theorem change_requireTls_iff {entry : String × String} {on : Bool} :
    change entry = .ok (.requireTls on) ↔
      normalize entry.1 = "requiressl" ∧ flag entry.1 entry.2 = .ok on := by
  rw [change_eq_ok_iff rfl (rfl : Meaning.ofName? "requiressl" = some .requireSsl), changeOf,
    map_eq_ok_iff fun _ _ => Change.requireTls.inj]

theorem change_tlsMode_iff {entry : String × String} {mode : Tls.Mode} :
    change entry = .ok (.tlsMode mode) ↔
      normalize entry.1 = "sslmode" ∧ Tls.Mode.parse entry.2 = .ok mode := by
  rw [change_eq_ok_iff rfl (rfl : Meaning.ofName? "sslmode" = some .sslMode), changeOf,
    map_eq_ok_iff fun _ _ => Change.tlsMode.inj]

/-! ### An explicit mode -/

/-- A change that does not choose the mode leaves it as it is. -/
theorem secure_of_modeMeaning?_eq_none {made : Change} (other : made.modeMeaning? = none)
    (tls : Tls.Settings) :
    (made.secure tls).mode = tls.mode ∧ (made.secure tls).verifyServer = tls.verifyServer := by
  cases made with
  | useTls | requireTls | tlsMode => cases other
  | tlsPath kind path => cases kind <;> exact ⟨rfl, rfl⟩
  | _ => exact ⟨rfl, rfl⟩

theorem foldl_secure_of_modeMeaning?_eq_none {made : List Change}
    (other : ∀ change ∈ made, change.modeMeaning? = none) (tls : Tls.Settings) :
    (made.foldl Change.secure tls).mode = tls.mode ∧
      (made.foldl Change.secure tls).verifyServer = tls.verifyServer := by
  induction made generalizing tls with
  | nil => exact ⟨rfl, rfl⟩
  | cons change made ih =>
    obtain ⟨mode, verify⟩ := secure_of_modeMeaning?_eq_none (other change List.mem_cons_self) tls
    obtain ⟨laterMode, laterVerify⟩ :=
      ih (fun later member => other later (List.mem_cons_of_mem _ member)) (change.secure tls)
    exact ⟨laterMode.trans mode, laterVerify.trans verify⟩

/-- What chooses the mode is applied no later than an explicit mode. -/
theorem rank_le_of_modeMeaning? {entry : String × String} {made : Change}
    (stands : change entry = .ok made) (chooses : made.modeMeaning? ≠ none) :
    rank (normalize entry.1) ≤ rank "sslmode" := by
  obtain ⟨meaning, own⟩ := Option.ne_none_iff_exists'.mp chooses
  rw [rank, means_of_modeMeaning? stands own]
  cases made with
  | useTls | requireTls | tlsMode =>
    cases own
    decide
  | _ => cases own

theorem eq_of_rank_eq {name : String} (same : rank name = rank "sslmode") : name = "sslmode" := by
  unfold rank at same
  split at same
  · contradiction
  · contradiction
  · next means => exact Meaning.eq_of_ofName? means rfl (by decide)
  · contradiction

/-- Behind the only explicit mode of a bag nothing chooses the mode. -/
theorem modeMeaning?_eq_none_behind {bag : Properties} {entry : String × String}
    (single : bag.entries.filter (fun entry => normalize entry.1 = "sslmode") = [entry])
    {before behind : List (String × String)} (order : bag.ordered = before ++ entry :: behind) :
    ∀ made ∈ changes behind, made.modeMeaning? = none := by
  intro made member
  obtain ⟨other, inside, stands⟩ := mem_changes_iff.mp member
  have explicit : normalize entry.1 = "sslmode" := by
    have found : entry ∈ bag.entries.filter fun entry => normalize entry.1 = "sslmode" :=
      single ▸ List.mem_singleton_self entry
    simpa using (List.mem_filter.mp found).2
  have sorted := bag.ordered_pairwise
  have once := bag.nodup_ordered
  rw [order] at sorted once
  have after := (List.pairwise_cons.mp (List.pairwise_append.mp sorted).2.1).1 other inside
  have alone := (List.nodup_cons.mp (List.nodup_append.mp once).2.1).1
  by_contra chooses
  have early := rank_le_of_modeMeaning? stands chooses
  rw [← explicit] at early
  -- So `other` has the rank of the explicit mode, hence its name, and there is one such entry only.
  have same : rank (normalize other.1) = rank (normalize entry.1) := by
    rcases place_le_iff.mp after with less | ⟨equal, -⟩
    · exact absurd early (Nat.not_le.mpr less)
    · exact equal.symm
  have named := eq_of_rank_eq (same.trans (congrArg rank explicit))
  have held : other ∈ bag.entries := bag.ordered_perm.mem_iff.mp (by simp [order, inside])
  have found : other ∈ [entry] := single ▸ List.mem_filter.mpr ⟨held, decide_eq_true named⟩
  exact alone (List.mem_singleton.mp found ▸ inside)

/-- An explicit mode has the last word on how a connection is secured, whatever the base was and
whatever other properties there are. A strict one leaves no plan that goes without encryption. -/
theorem secured_as_explicit {bag : Properties} {key value : String}
    (single : bag.entries.filter (fun entry => normalize entry.1 = "sslmode") = [(key, value)])
    {mode : Tls.Mode} (names : Tls.Mode.parse value = .ok mode) {config result : Config}
    (applied : bag.applyTo config = .ok result) :
    result.tls.mode = mode ∧ result.tls.verifyServer = mode.verifies ∧
      (mode ∈ [.require, .verifyCa, .verifyFull] → ∀ fileExists plan,
        Tls.Plan.make fileExists result.tls = .ok plan →
          plan.encrypted.isSome = true ∧ ∀ cause, plan.retriesInPlaintext cause = false) := by
  have found : (key, value) ∈ bag.entries.filter fun entry => normalize entry.1 = "sslmode" :=
    single ▸ List.mem_singleton_self _
  obtain ⟨held, explicit⟩ := List.mem_filter.mp found
  have stands : change (key, value) = .ok (.tlsMode mode) :=
    change_tlsMode_iff.mpr ⟨of_decide_eq_true explicit, names⟩
  obtain ⟨before, behind, order⟩ := List.append_of_mem (bag.ordered_perm.mem_iff.mpr held)
  obtain ⟨-, rfl⟩ := applyTo_eq_ok_iff.mp applied
  rw [tls_foldl_apply, order, changes_append, changes_cons stands, List.foldl_append,
    List.foldl_cons]
  have settled := foldl_secure_of_modeMeaning?_eq_none (modeMeaning?_eq_none_behind single order)
    ((Change.tlsMode mode).secure ((changes before).foldl Change.secure config.tls))
  refine ⟨settled.1, settled.2, fun strict fileExists plan made => ?_⟩
  exact Tls.Plan.encrypted_of_strict (settled.1 ▸ strict) made

/-- The explicit mode is applied behind two switches that are spelled otherwise, one of which throws
the settings of the base away, and before the path that its mode needs. -/
theorem secured_as_explicit_verifyCa :
    let bag := ofList [("SSL_MODE", " verify-ca "), ("ssl-ca", "/ca"), ("use_ssl", "off"),
      ("requireSSL", "yes"), ("sslModes", "DISABLED")]
    let base := { Config.mysqlDefault with tls := { mode := .allow, verifyServer := true } }
    let result := { base with
      tls := { mode := .verifyCa, caCert := some "/ca", verifyServer := true }
      params := SortedMap.ofList [("sslModes", "DISABLED")] }
    let plan : Tls.Plan := ⟨.verifyCa, some
      { skipDomainValidation := true, disableBuiltInRoots := true, rootCerts := ["/ca"] }⟩
    (bag.entries.filter (fun entry => normalize entry.1 = "sslmode") = [("SSL_MODE", " verify-ca ")] ∧
      Tls.Mode.parse " verify-ca " = .ok .verifyCa ∧ bag.applyTo base = .ok result ∧
      Tls.Plan.make (fun path => path == "/ca") result.tls = .ok plan) ∧
    plan.encrypted.isSome = true ∧ ∀ cause, plan.retriesInPlaintext cause = false := by
  intro bag base result plan
  have single : bag.entries.filter (fun entry => normalize entry.1 = "sslmode") =
      [("SSL_MODE", " verify-ca ")] := by decide
  have names : Tls.Mode.parse " verify-ca " = .ok .verifyCa := rfl
  have order : bag.ordered = [("use_ssl", "off"), ("requireSSL", "yes"), ("SSL_MODE", " verify-ca "),
      ("ssl-ca", "/ca"), ("sslModes", "DISABLED")] := by
    refine ordered_eq (by decide) ?_
    simp only [← appliedBefore_iff]
    decide
  have applied : bag.applyTo base = .ok result :=
    applyTo_eq_ok_iff.mpr ⟨by decide, by rw [order]; decide⟩
  have made : Tls.Plan.make (fun path => path == "/ca") result.tls = .ok plan := by decide
  refine ⟨⟨single, names, applied, made⟩, ?_⟩
  exact (secured_as_explicit single names applied).2.2 (by decide) _ plan made

/-! ### Switches without an explicit mode -/

/-- The change neither names a mode nor throws one away. -/
def Change.Asks (change : Change) : Prop :=
  change.modeMeaning? ≠ some .sslMode ∧ change ≠ .useTls false

theorem mode_secure {change : Change} (asks : change.Asks) (tls : Tls.Settings) :
    (change.secure tls).mode =
      if change = .requireTls true then .require
      else if change = .useTls true ∧ tls.mode = .disable then .prefer
      else tls.mode := by
  obtain ⟨implicit, keeps⟩ := asks
  cases change with
  | tlsMode => exact absurd rfl implicit
  | useTls on =>
    cases on with
    | false => exact absurd rfl keeps
    | true => by_cases plain : tls.mode = .disable <;> simp [Change.secure, plain]
  | requireTls on => cases on <;> simp [Change.secure]
  | tlsPath kind path => cases kind <;> simp [Change.secure, Tls.Settings.withPath]
  | _ => simp [Change.secure]

/-- Changes that only ask for transport security leave the same mode in whatever order they come. -/
theorem mode_foldl_secure {made : List Change} (asks : ∀ change ∈ made, change.Asks)
    (tls : Tls.Settings) : (made.foldl Change.secure tls).mode =
      if .requireTls true ∈ made then .require
      else if .useTls true ∈ made ∧ tls.mode = .disable then .prefer
      else tls.mode := by
  induction made generalizing tls with
  | nil => simp
  | cons change made ih =>
    rw [List.foldl_cons, ih (fun later member => asks later (List.mem_cons_of_mem _ member)),
      mode_secure (asks change List.mem_cons_self)]
    grind

/-- Properties that ask for transport security, and name no mode, make a connection no less strict
than its base exactly if the base does not verify the server or none of them is a `requireSSL` that
is on. Otherwise they leave `require`, and the server is not verified any more. -/
theorem no_less_strict_iff {bag : Properties} {config result : Config}
    (implicit : ∀ entry ∈ bag.entries, normalize entry.1 ≠ "sslmode")
    (asks : ∀ entry ∈ bag.entries, normalize entry.1 = "usessl" → flag entry.1 entry.2 ≠ .ok false)
    (applied : bag.applyTo config = .ok result) :
    (config.tls.mode.strictness ≤ result.tls.mode.strictness ↔
      config.tls.mode.verifies = false ∨ ∀ entry ∈ bag.entries,
        normalize entry.1 = "requiressl" → flag entry.1 entry.2 ≠ .ok true) ∧
    (result.tls.mode.strictness < config.tls.mode.strictness → result.tls.mode = .require) := by
  have member {made : Change} : made ∈ changes bag.ordered ↔
      ∃ entry ∈ bag.entries, change entry = .ok made := by
    simp only [mem_changes_iff, bag.ordered_perm.mem_iff]
  have switches : ∀ made ∈ changes bag.ordered, made.Asks := by
    intro made inside
    obtain ⟨entry, held, stands⟩ := member.mp inside
    constructor
    · intro chooses
      exact implicit entry held ((change_eq_ok_iff chooses rfl).mp stands).1
    · rintro rfl
      obtain ⟨named, off⟩ := change_useTls_iff.mp stands
      exact asks entry held named off
  have required : .requireTls true ∈ changes bag.ordered ↔ ¬ ∀ entry ∈ bag.entries,
      normalize entry.1 = "requiressl" → flag entry.1 entry.2 ≠ .ok true := by
    simp only [member, change_requireTls_iff, not_forall, not_not, exists_prop]
  obtain ⟨-, rfl⟩ := applyTo_eq_ok_iff.mp applied
  rw [tls_foldl_apply, mode_foldl_secure switches]
  by_cases require : .requireTls true ∈ changes bag.ordered
  · have verifies : config.tls.mode.verifies = true ↔
        Tls.Mode.require.strictness < config.tls.mode.strictness := by
      cases config.tls.mode <;> decide
    rw [if_pos require]
    simp only [required.mp require, or_false, implies_true, and_true]
    rw [← Bool.not_eq_true, verifies, Nat.not_lt]
  · rw [if_neg require]
    have kept : config.tls.mode.strictness ≤ (if .useTls true ∈ changes bag.ordered ∧
        config.tls.mode = .disable then Tls.Mode.prefer else config.tls.mode).strictness := by
      split
      · next raised => rw [raised.2]; decide
      · exact Nat.le_refl _
    have none := not_not.mp (mt required.mpr require)
    exact ⟨iff_of_true kept (.inr none), fun less => absurd kept (Nat.not_le.mpr less)⟩

/-- Both switches are on, under other spellings, and the base encrypts but does not verify. -/
theorem no_less_strict_iff_prefer :
    let bag := ofList [("use-ssl", "YES"), ("Require_SSL", " on "), ("ssl-ca", "/ca")]
    let base := { Config.mysqlDefault with tls := { mode := .prefer } }
    let result := { base with tls := { mode := .require, caCert := some "/ca" } }
    ((∀ entry ∈ bag.entries, normalize entry.1 ≠ "sslmode") ∧
      (∀ entry ∈ bag.entries, normalize entry.1 = "usessl" → flag entry.1 entry.2 ≠ .ok false) ∧
      bag.applyTo base = .ok result) ∧
    base.tls.mode.strictness ≤ result.tls.mode.strictness := by
  intro bag base result
  have implicit : ∀ entry ∈ bag.entries, normalize entry.1 ≠ "sslmode" := by decide
  have asks : ∀ entry ∈ bag.entries, normalize entry.1 = "usessl" →
      flag entry.1 entry.2 ≠ .ok false := by decide
  have order : bag.ordered = [("use-ssl", "YES"), ("Require_SSL", " on "), ("ssl-ca", "/ca")] := by
    refine ordered_eq (by decide) ?_
    simp only [← appliedBefore_iff]
    decide
  have applied : bag.applyTo base = .ok result :=
    applyTo_eq_ok_iff.mpr ⟨by decide, by rw [order]; decide⟩
  exact ⟨⟨implicit, asks, applied⟩, (no_less_strict_iff implicit asks applied).1.mpr (.inl rfl)⟩

/-- To require encryption on top of a base that verifies the server gives the verification up. -/
theorem verification_given_up :
    ¬ ∀ (bag : Properties) (config result : Config),
      (∀ entry ∈ bag.entries, normalize entry.1 ≠ "sslmode") →
      (∀ entry ∈ bag.entries, normalize entry.1 = "usessl" → flag entry.1 entry.2 ≠ .ok false) →
      bag.applyTo config = .ok result →
      config.tls.mode.strictness ≤ result.tls.mode.strictness := by
  intro kept
  have order : (ofList [("requireSSL", "true")]).ordered = [("requireSSL", "true")] :=
    ordered_eq (by decide) (List.pairwise_singleton _ _)
  have applied : (ofList [("requireSSL", "true")]).applyTo
      { Config.mysqlDefault with tls := { mode := .verifyFull, caCert := some "/ca" } } =
        .ok { Config.mysqlDefault with
          tls := { mode := .require, caCert := some "/ca", verifyServer := true } } :=
    applyTo_eq_ok_iff.mpr ⟨by decide, by rw [order]; decide⟩
  have strict := kept _ _ _ (by decide) (by decide) applied
  revert strict
  decide

end SqlProbe.Properties
