import Mathlib.Algebra.Ring.Nat
import SqlProbe.Proofs.Pool.Config

/-!
# Configurations that are read from JSON

A configuration that is made in code has its sizes in order. One that is read from JSON is taken as
it is, and what can be read is every configuration whose settings fit 64 bits. Of later changes only
one can put sizes in order again, and only the number of idle connections.
-/

namespace SqlProbe.Pool.Config

/-! ### Changes -/

/-- A change of one setting. -/
inductive Change where
  | maxIdle (maxIdle : Nat)
  | acquireTimeout (acquireTimeout : Nat)
  | idleTimeout (idleTimeout : Nat)
  | maxLifetime (maxLifetime : Nat)
  deriving DecidableEq

/-- The configuration after a change. -/
def Change.apply (config : Config) : Change → Config
  | maxIdle n => config.withMaxIdle n
  | acquireTimeout n => config.withAcquireTimeout n
  | idleTimeout n => config.withIdleTimeout n
  | maxLifetime n => config.withMaxLifetime n

theorem Built.apply {config : Config} (built : Built config) (change : Change) :
    Built (change.apply config) := by
  cases change with
  | maxIdle n => exact built.withMaxIdle n
  | acquireTimeout n => exact built.withAcquireTimeout n
  | idleTimeout n => exact built.withIdleTimeout n
  | maxLifetime n => exact built.withMaxLifetime n

theorem Built.foldl_apply {config : Config} (built : Built config) (changes : List Change) :
    Built (changes.foldl Change.apply config) := by
  induction changes generalizing config with
  | nil => exact built
  | cons change changes ih => exact ih (built.apply change)

/-- No change touches the sizes, and one of the idle connections limits them to all. -/
theorem sizes_apply (config : Config) (change : Change) :
    (change.apply config).minSize = config.minSize ∧
      (change.apply config).maxSize = config.maxSize ∧
      ((change.apply config).maxIdle ≤ config.maxSize ↔
        config.maxIdle ≤ config.maxSize ∨ ∃ n, change = .maxIdle n) := by
  cases change with
  | maxIdle n => exact ⟨rfl, rfl, iff_of_true (Nat.min_le_right ..) (.inr ⟨n, rfl⟩)⟩
  | acquireTimeout n => simp [Change.apply, withAcquireTimeout]
  | idleTimeout n => simp [Change.apply, withIdleTimeout]
  | maxLifetime n => simp [Change.apply, withMaxLifetime]

/-- The sizes are in order after changes if they were before, but for the idle connections, which
are in order from the first change of theirs on. -/
theorem ordered_foldl_apply_iff (config : Config) (changes : List Change) :
    (changes.foldl Change.apply config).Ordered ↔
      0 < config.maxSize ∧ config.minSize ≤ config.maxSize ∧
        (config.maxIdle ≤ config.maxSize ∨ ∃ n, Change.maxIdle n ∈ changes) := by
  induction changes generalizing config with
  | nil =>
    constructor
    · intro ordered
      exact ⟨ordered.positive, ordered.minSize, .inl ordered.maxIdle⟩
    · rintro ⟨positive, minSize, maxIdle | ⟨n, member⟩⟩
      · exact ⟨positive, minSize, maxIdle⟩
      · cases member
  | cons change changes ih =>
    obtain ⟨minSize, maxSize, maxIdle⟩ := sizes_apply config change
    rw [List.foldl_cons, ih, minSize, maxSize, maxIdle, or_assoc, ← exists_or]
    simp only [List.mem_cons, eq_comm]

/-! ### JSON -/

/-- All settings fit 64 bits. -/
structure Fits (config : Config) : Prop where
  minSize : config.minSize < 2 ^ 64
  maxSize : config.maxSize < 2 ^ 64
  maxIdle : config.maxIdle < 2 ^ 64
  acquireTimeout : config.acquireTimeout < 2 ^ 64
  idleTimeout : config.idleTimeout < 2 ^ 64
  maxLifetime : ∀ n ∈ config.maxLifetime, n < 2 ^ 64

theorem asWord?_natural {n : Nat} (fits : n < 2 ^ 64) : (Json.natural n).asWord? = some n := by
  have bounded : (n : Int) ≤ (Nat.pow 2 64 - 1 : Nat) := by
    rw [show Nat.pow 2 64 = 2 ^ 64 from rfl]
    omega
  rw [Json.asWord?, Json.asNatural?, Json.natural, Json.asInteger?, if_pos ⟨by omega, bounded⟩]
  rfl

theorem required_natural {parts : Json.Parts} {i n : Nat} (given : parts.get? i = some (.natural n))
    (fits : n < 2 ^ 64) : parts.required i Json.asWord? = some n := by
  rw [Json.Parts.required, given]
  exact asWord?_natural fits

theorem optional_orNull {parts : Json.Parts} {i : Nat} {setting : Option Nat}
    (given : parts.get? i = some (.orNull .natural setting)) (fits : ∀ n ∈ setting, n < 2 ^ 64) :
    parts.optional i Json.asWord? = some setting := by
  rw [Json.Parts.optional, given]
  cases setting with
  | none => rfl
  | some n =>
    change (Json.natural n).asWord?.map some = _
    rw [asWord?_natural (fits n rfl)]
    rfl

theorem exists_parts_toJson (config : Config) :
    ∃ parts, config.toJson.parts? ["min_size", "max_size", "max_idle", "acquire_timeout_ms",
        "idle_timeout_ms", "max_lifetime_ms"] = some parts ∧
      parts.get? 0 = some (.natural config.minSize) ∧
      parts.get? 1 = some (.natural config.maxSize) ∧
      parts.get? 2 = some (.natural config.maxIdle) ∧
      parts.get? 3 = some (.natural config.acquireTimeout) ∧
      parts.get? 4 = some (.natural config.idleTimeout) ∧
      parts.get? 5 = some (.orNull .natural config.maxLifetime) := by
  refine ⟨⟨true, [some (.natural config.minSize), some (.natural config.maxSize),
    some (.natural config.maxIdle), some (.natural config.acquireTimeout),
    some (.natural config.idleTimeout), some (.orNull .natural config.maxLifetime)]⟩, ?_, rfl, rfl,
    rfl, rfl, rfl, rfl⟩
  simp [toJson, Json.parts?]

/-- A configuration is read back from its JSON form, whatever its sizes are. -/
theorem ofJson?_toJson {config : Config} (fits : config.Fits) :
    ofJson? config.toJson = some config := by
  obtain ⟨parts, read, minSize, maxSize, maxIdle, acquireTimeout, idleTimeout, maxLifetime⟩ :=
    exists_parts_toJson config
  rw [ofJson?, read]
  simp only [Option.bind_eq_bind, Option.bind_some, required_natural minSize fits.minSize,
    required_natural maxSize fits.maxSize, required_natural maxIdle fits.maxIdle,
    required_natural acquireTimeout fits.acquireTimeout,
    required_natural idleTimeout fits.idleTimeout, optional_orNull maxLifetime fits.maxLifetime]
  rfl

theorem lt_of_asWord? {json : Json} {n : Nat} (read : json.asWord? = some n) : n < 2 ^ 64 := by
  rw [Json.asWord?, Json.asNatural?, Option.map_eq_some_iff] at read
  obtain ⟨m, read, rfl⟩ := read
  unfold Json.asInteger? at read
  split at read
  · next k =>
    split at read
    · next bounds =>
      obtain rfl := Option.some.inj read
      rw [show Nat.pow 2 64 = 2 ^ 64 from rfl] at bounds
      omega
    · contradiction
  · contradiction

theorem lt_of_required {parts : Json.Parts} {i n : Nat}
    (read : parts.required i Json.asWord? = some n) : n < 2 ^ 64 := by
  obtain ⟨json, -, read⟩ := Option.bind_eq_some_iff.mp read
  exact lt_of_asWord? read

theorem lt_of_optional {parts : Json.Parts} {i : Nat} {setting : Option Nat}
    (read : parts.optional i Json.asWord? = some setting) : ∀ n ∈ setting, n < 2 ^ 64 := by
  unfold Json.Parts.optional at read
  split at read
  · split at read
    · cases read
      simp
    · contradiction
  · cases read
    simp
  · obtain ⟨n, word, rfl⟩ := Option.map_eq_some_iff.mp read
    rintro m ⟨⟩
    exact lt_of_asWord? word

/-- Exactly the configurations whose settings fit 64 bits can be read from JSON. -/
theorem exists_json_iff {config : Config} :
    (∃ json, ofJson? json = some config) ↔ config.Fits := by
  constructor
  · rintro ⟨json, read⟩
    simp only [ofJson?, Option.bind_eq_bind, Option.bind_eq_some_iff, Option.pure_def,
      Option.some.injEq] at read
    obtain ⟨parts, -, minSize, first, maxSize, second, maxIdle, third, acquireTimeout, fourth,
      idleTimeout, fifth, maxLifetime, sixth, rfl⟩ := read
    exact ⟨lt_of_required first, lt_of_required second, lt_of_required third, lt_of_required fourth,
      lt_of_required fifth, lt_of_optional sixth⟩
  · exact fun fits => ⟨config.toJson, ofJson?_toJson fits⟩

/-! ### Every way to make a configuration -/

/-- Where a configuration comes from. -/
inductive Origin where
  | sizes (minSize maxSize : Nat)
  | default
  | json (json : Json)

/-- The configuration that is made, if one is. -/
def Origin.config? : Origin → Option Config
  | sizes minSize maxSize => (ofSizes minSize maxSize).toOption
  | default => some {}
  | json value => ofJson? value

theorem built_of_config? {origin : Origin} {config : Config} (made : origin.config? = some config)
    (coded : ∀ value, origin ≠ .json value) : Built config := by
  cases origin with
  | sizes minSize maxSize =>
    cases result : ofSizes minSize maxSize with
    | error e => simp [Origin.config?, result, Except.toOption] at made
    | ok found =>
      simp only [Origin.config?, result, Except.toOption, Option.some.injEq] at made
      obtain rfl := made
      exact .ofSizes result
  | default =>
    obtain rfl := Option.some.inj made
    exact .default
  | json value => exact absurd rfl (coded value)

/-- However a configuration is made and whatever settings are changed then, its sizes are in order,
unless it was read from JSON with sizes that are not. The idle connections may be put in order by a
later change. -/
theorem ordered_iff_of_origin {origin : Origin} {config : Config}
    (made : origin.config? = some config) (changes : List Change) :
    (changes.foldl Change.apply config).Ordered ↔ ∀ value, origin = .json value →
      0 < config.maxSize ∧ config.minSize ≤ config.maxSize ∧
        (config.maxIdle ≤ config.maxSize ∨ ∃ n, Change.maxIdle n ∈ changes) := by
  constructor
  · intro ordered _ _
    exact (ordered_foldl_apply_iff config changes).mp ordered
  · intro inOrder
    by_cases coded : ∀ value, origin ≠ .json value
    · exact ((built_of_config? made coded).foldl_apply changes).ordered
    · obtain ⟨value, read⟩ := Classical.not_forall.mp coded
      exact (ordered_foldl_apply_iff config changes).mpr (inOrder value (Classical.not_not.mp read))

/-- Read with more idle connections than connections, put in order by a later change. -/
theorem ordered_iff_of_origin_mended :
    Origin.config? (.json (toJson { minSize := 2, maxSize := 4, maxIdle := 8 })) =
        some { minSize := 2, maxSize := 4, maxIdle := 8 } ∧
      ([Change.acquireTimeout 10, .maxIdle 8].foldl Change.apply
        { minSize := 2, maxSize := 4, maxIdle := 8 }).Ordered := by
  have fits : Fits { minSize := 2, maxSize := 4, maxIdle := 8 } :=
    ⟨by decide, by decide, by decide, by decide, by decide, by decide⟩
  have made : Origin.config? (.json (toJson { minSize := 2, maxSize := 4, maxIdle := 8 })) = _ :=
    ofJson?_toJson fits
  refine ⟨made, (ordered_iff_of_origin made _).mpr ?_⟩
  intro _ _
  exact ⟨by decide, by decide, .inr ⟨8, by decide⟩⟩

/-- A configuration without connections is read from JSON. -/
theorem unordered_sizes_are_read :
    ¬ ∀ (origin : Origin) (config : Config) (changes : List Change), origin.config? = some config →
      (changes.foldl Change.apply config).Ordered := by
  intro ordered
  have fits : Fits { minSize := 2, maxSize := 0, maxIdle := 4 } :=
    ⟨by decide, by decide, by decide, by decide, by decide, by decide⟩
  have unordered := ordered (.json (toJson _)) _ [] (ofJson?_toJson fits)
  exact absurd unordered.positive (by decide)

end SqlProbe.Pool.Config
