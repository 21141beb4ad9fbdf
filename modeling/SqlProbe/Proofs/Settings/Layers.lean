import SqlProbe.Proofs.Properties.Bag
import SqlProbe.Settings.Resolve

/-!
# The last layer that sets a field

Laying layers over the defaults, one after the other, comes to looking for each field from the last
layer back. A layer sets a field by itself or by the text of its target, of which the former counts;
what no layer sets keeps its default. The layers are refused for the first fault that is met on the
way, and for no other reason. To lay the same layers once more changes nothing.
-/

namespace SqlProbe

theorem SortedMap.get?_insertAll {α : Type} (map more : SortedMap α) (key : String) :
    (map.insertAll more.entries).get? key = (more.get? key).or (map.get? key) := by
  have latest (l : List (String × α)) (apart : l.Pairwise fun a b => a.1 ≠ b.1)
      (map : SortedMap α) : (map.insertAll l).get? key =
        ((l.find? fun entry => entry.1 == key).map (·.2)).or (map.get? key) := by
    induction l generalizing map with
    | nil => rfl
    | cons entry rest ih =>
      obtain ⟨first, apart⟩ := List.pairwise_cons.mp apart
      refine (ih apart (map.insert entry.1 entry.2)).trans ?_
      rw [get?_insert, List.find?_cons]
      by_cases same : entry.1 = key
      · have absent : rest.find? (fun entry => entry.1 == key) = none :=
          List.find?_eq_none.mpr fun other member => by simpa using same ▸ (first other member).symm
        simp [same, absent]
      · simp [same, beq_false_of_ne same]
  exact latest more.entries more.keys_apart map

namespace Layer

variable {α : Type}

/-! ### What a layer sets -/

/-- The configuration that the text of a layer's target stands for, if it is accepted. -/
def parsed? (profile : Driver.Profile) (layer : Layer) : Option Config :=
  layer.url.bind fun url => (profile.parseTarget url).toOption

/-- Where a layer can set something: in a field of its own, and in the text of its target. -/
structure Setting (α : Type) where
  field : Layer → Option α
  inTarget : Config → Option α

namespace Setting

/-- What a layer sets. A field of its own comes before the text of its target. -/
def of? (setting : Setting α) (profile : Driver.Profile) (layer : Layer) : Option α :=
  (setting.field layer).or ((layer.parsed? profile).bind setting.inTarget)

/-- What is set by the last of the layers that set it. -/
def last? (setting : Setting α) (profile : Driver.Profile) (layers : List Layer) : Option α :=
  layers.reverse.findSome? (setting.of? profile)

/-- Every target names a host. -/
def host : Setting String := ⟨Layer.host, fun parsed => some parsed.host⟩

/-- A target may name a database, and a field that is empty sets that there is none. -/
def database : Setting (Option String) :=
  ⟨fun layer => layer.database.map Config.databaseNamed, fun parsed => parsed.database.map some⟩

def username : Setting String := ⟨Layer.user, Config.username⟩

/-- A target that names a user sets the password as well, an empty one where it has none. -/
def password : Setting String :=
  ⟨Layer.password, fun parsed => parsed.username.map fun _ => parsed.password.getD ""⟩

/-- Transport security is up to targets, each of which sets it. -/
def tls : Setting Tls.Settings := ⟨fun _ => none, fun parsed => some parsed.tls⟩

/-- A target sets the port unless its port is 0. -/
def port : Setting UInt16 :=
  ⟨Layer.port, fun parsed => if parsed.port = 0 then none else some parsed.port⟩

/-- A target sets how long a connect may take unless that is as long as by default. -/
def connectTimeout : Setting Nat :=
  ⟨Layer.connectTimeout,
    fun parsed => if parsed.connectTimeout = 10000 then none else some parsed.connectTimeout⟩

/-- Parameters are up to targets. -/
def param (key : String) : Setting String := ⟨fun _ => none, fun parsed => parsed.params.get? key⟩

/-- The same layers once more set what they have set. -/
theorem last?_append_self (setting : Setting α) (profile : Driver.Profile) (layers : List Layer) :
    setting.last? profile (layers ++ layers) = setting.last? profile layers := by
  rw [last?, List.reverse_append, List.findSome?_append, Option.or_self]
  rfl

theorem last?_of_no_target (setting : Setting α) (profile : Driver.Profile) {layers : List Layer}
    (bare : ∀ layer ∈ layers, layer.url = none) :
    setting.last? profile layers = layers.reverse.findSome? setting.field := by
  have same (layer : Layer) (member : layer ∈ layers.reverse) :
      setting.of? profile layer = setting.field layer := by
    rw [of?, parsed?, bare layer (List.mem_reverse.mp member)]
    exact Option.or_none
  rw [last?]
  generalize layers.reverse = behind at same
  induction behind with
  | nil => rfl
  | cons layer behind ih =>
    rw [List.findSome?_cons, List.findSome?_cons, same layer List.mem_cons_self,
      ih fun other member => same other (List.mem_cons_of_mem _ member)]

end Setting

/-! ### What is wrong with a layer -/

/-- A layer has a target that the driver rejects, an empty host, or a port or timeout of 0. -/
def Faulty (profile : Driver.Profile) (layer : Layer) : Prop :=
  (∃ url cause, layer.url = some url ∧ profile.parseTarget url = .error cause) ∨
    layer.host = some "" ∨ layer.port = some 0 ∨ layer.connectTimeout = some 0

/-- What is wrong with the target of a layer. -/
def targetFaults (profile : Driver.Profile) (layer : Layer) : List Error :=
  match layer.url.map profile.parseTarget with
  | some (.error cause) => [withHelp profile cause]
  | _ => []

/-- The fault of a field that has a value it must not have. -/
def fieldFaults [DecidableEq α] (value : Option α) (bad : α) (message : String) : List Error :=
  if value = some bad then [⟨.configuration, message⟩] else []

/-- The faults of a layer in the order in which they are told: of the target, the host, the port and
the timeout. -/
def faults (profile : Driver.Profile) (layer : Layer) : List Error :=
  targetFaults profile layer ++ fieldFaults layer.host "" "host must not be empty" ++
    fieldFaults layer.port 0 "port must not be 0" ++
    fieldFaults layer.connectTimeout 0 "connect timeout must be greater than 0"

theorem targetFaults_eq_nil_iff {profile : Driver.Profile} {layer : Layer} :
    targetFaults profile layer = [] ↔
      ¬ ∃ url cause, layer.url = some url ∧ profile.parseTarget url = .error cause := by
  rw [targetFaults]
  cases layer.url with
  | none => simp
  | some url => cases accepted : profile.parseTarget url <;> simp [accepted]

theorem fieldFaults_eq_nil_iff [DecidableEq α] {value : Option α} {bad : α} {message : String} :
    fieldFaults value bad message = [] ↔ value ≠ some bad := by
  simp [fieldFaults]

theorem faults_eq_nil_iff {profile : Driver.Profile} {layer : Layer} :
    faults profile layer = [] ↔ ¬ layer.Faulty profile := by
  simp only [faults, List.append_eq_nil_iff, targetFaults_eq_nil_iff, fieldFaults_eq_nil_iff,
    Faulty, not_or, and_assoc, ne_eq]

/-! ### Laying one layer over a configuration -/

/-- A configuration, or the first of the faults that were met on the way to it. -/
def unlessFaulty (faults : List Error) (config : Config) : Except Error Config :=
  match faults with
  | [] => .ok config
  | cause :: _ => .error cause

theorem unlessFaulty_bind (faults more : List Error) (config : Config) (next : Config → Config) :
    (unlessFaulty faults config >>= fun config => unlessFaulty more (next config)) =
      unlessFaulty (faults ++ more) (next config) := by
  cases faults <;> rfl

theorem unlessFaulty_eq_error_iff {faults : List Error} {config : Config} {cause : Error} :
    unlessFaulty faults config = .error cause ↔ faults.head? = some cause := by
  cases faults <;> simp [unlessFaulty]

/-- A field is laid over a configuration unless it has the one value that it must not have. -/
theorem optionally_eq [DecidableEq α] (lay : Config → Option α → Config)
    (none : ∀ config, lay config none = config) (value : Option α) (bad : α) (message : String)
    (config : Config) :
    optionally value (fun config value =>
        if value = bad then .error ⟨.configuration, message⟩ else .ok (lay config value)) config =
      unlessFaulty (fieldFaults value bad message) (lay config value) := by
  cases value with
  | none => exact congrArg Except.ok (none config).symm
  | some value =>
    by_cases same : value = bad <;> simp [optionally, fieldFaults, unlessFaulty, same]

theorem optionally_applyUrl (profile : Driver.Profile) (layer : Layer) (config : Config) :
    optionally layer.url (applyUrl profile) config =
      unlessFaulty (targetFaults profile layer)
        ((layer.parsed? profile).elim config (merge config)) := by
  rw [targetFaults, parsed?]
  cases layer.url with
  | none => rfl
  | some url =>
    cases accepted : profile.parseTarget url <;>
      simp [optionally, applyUrl, accepted, unlessFaulty, Except.toOption]

def layHost (config : Config) (host : Option String) : Config :=
  { config with host := host.getD config.host }

def layPort (config : Config) (port : Option UInt16) : Config :=
  { config with port := port.getD config.port }

def layTimeout (config : Config) (connectTimeout : Option Nat) : Config :=
  { config with connectTimeout := connectTimeout.getD config.connectTimeout }

/-- A configuration with what a layer sets, as far as it is not faulty. -/
def laid (profile : Driver.Profile) (config : Config) (layer : Layer) : Config :=
  let merged := (layer.parsed? profile).elim config (merge config)
  layTimeout (layer.applyNames (layPort (layHost merged layer.host) layer.port))
    layer.connectTimeout

/-- A layer is refused for its first fault, and laid over the configuration if it has none. -/
theorem apply_eq (profile : Driver.Profile) (config : Config) (layer : Layer) :
    apply profile config layer =
      unlessFaulty (faults profile layer) (laid profile config layer) := by
  have host := optionally_eq layHost (fun _ => rfl) layer.host "" "host must not be empty"
  have port := optionally_eq layPort (fun _ => rfl) layer.port 0 "port must not be 0"
  have timeout := optionally_eq layTimeout (fun _ => rfl) layer.connectTimeout 0
    "connect timeout must be greater than 0"
  calc apply profile config layer
    _ = (do
        let config ← optionally layer.url (applyUrl profile) config
        let config ← unlessFaulty (fieldFaults layer.host "" "host must not be empty")
          (layHost config layer.host)
        let config ← unlessFaulty (fieldFaults layer.port 0 "port must not be 0")
          (layPort config layer.port)
        unlessFaulty (fieldFaults layer.connectTimeout 0 "connect timeout must be greater than 0")
          (layTimeout (layer.applyNames config) layer.connectTimeout)) := by
      simp only [← host, ← port, ← timeout]
      rfl
    _ = unlessFaulty (faults profile layer) (laid profile config layer) := by
      simp only [optionally_applyUrl, unlessFaulty_bind, faults, List.append_assoc, laid]

/-! ### What is laid over a configuration -/

/-- One configuration is the other with everything in it that is set. -/
structure Laid (set? : (α : Type) → Setting α → Option α) (before after : Config) : Prop where
  name : after.name = before.name
  driver : after.driver = before.driver
  host : after.host = (set? _ .host).getD before.host
  port : after.port = (set? _ .port).getD before.port
  database : after.database = (set? _ .database).getD before.database
  username : after.username = (set? _ .username).or before.username
  password : after.password = (set? _ .password).or before.password
  tls : after.tls = (set? _ .tls).getD before.tls
  connectTimeout : after.connectTimeout = (set? _ .connectTimeout).getD before.connectTimeout
  params : ∀ key, after.params.get? key = (set? _ (.param key)).or (before.params.get? key)

namespace Laid

theorem refl (config : Config) : Laid (fun _ _ => none) config config := by
  constructor <;> intros <;> rfl

/-- What is laid later hides what was laid before. -/
theorem trans {first second : (α : Type) → Setting α → Option α} {a b c : Config}
    (below : Laid first a b) (above : Laid second b c) :
    Laid (fun α setting => (second α setting).or (first α setting)) a c where
  name := above.name.trans below.name
  driver := above.driver.trans below.driver
  host := by rw [above.host, below.host, Option.getD_or]
  port := by rw [above.port, below.port, Option.getD_or]
  database := by rw [above.database, below.database, Option.getD_or]
  username := by rw [above.username, below.username, Option.or_assoc]
  password := by rw [above.password, below.password, Option.or_assoc]
  tls := by rw [above.tls, below.tls, Option.getD_or]
  connectTimeout := by rw [above.connectTimeout, below.connectTimeout, Option.getD_or]
  params key := by rw [above.params, below.params, Option.or_assoc]

/-- A configuration is determined by what is laid over another. -/
theorem unique {set? : (α : Type) → Setting α → Option α} {before one other : Config}
    (left : Laid set? before one) (right : Laid set? before other) : one = other := by
  have params : one.params = other.params :=
    SortedMap.eq_of_get? fun key => (left.params key).trans (right.params key).symm
  obtain ⟨name, driver, host, port, database, username, password, tls, timeout, _⟩ := left
  obtain ⟨name', driver', host', port', database', username', password', tls', timeout', _⟩ := right
  cases one
  cases other
  simp only [Config.mk.injEq]
  exact ⟨name.trans name'.symm, driver.trans driver'.symm, host.trans host'.symm,
    port.trans port'.symm, database.trans database'.symm, username.trans username'.symm,
    password.trans password'.symm, tls.trans tls'.symm, timeout.trans timeout'.symm, params⟩

theorem target (parsed? : Option Config) (config : Config) :
    Laid (fun _ setting => parsed?.bind setting.inTarget) config
      (parsed?.elim config (merge config)) := by
  cases parsed? with
  | none => exact refl config
  | some parsed =>
    constructor
    case port =>
      change (if parsed.port = 0 then config.port else parsed.port) =
        (if parsed.port = 0 then none else some parsed.port).getD config.port
      split <;> rfl
    case connectTimeout =>
      change (if parsed.connectTimeout = 10000 then config.connectTimeout
          else parsed.connectTimeout) =
        (if parsed.connectTimeout = 10000 then none
          else some parsed.connectTimeout).getD config.connectTimeout
      split <;> rfl
    case database =>
      change parsed.database.orElse (fun _ => config.database) =
        (parsed.database.map some).getD config.database
      cases parsed.database <;> rfl
    case username => exact Option.orElse_eq_or ..
    case password =>
      change (if parsed.username.isSome then some (parsed.password.getD "") else config.password) =
        (parsed.username.map fun _ => parsed.password.getD "").or config.password
      cases parsed.username <;> rfl
    case params => exact SortedMap.get?_insertAll config.params parsed.params
    all_goals rfl

theorem fields (layer : Layer) (config : Config) :
    Laid (fun _ setting => setting.field layer) config
      (layTimeout (layer.applyNames (layPort (layHost config layer.host) layer.port))
        layer.connectTimeout) := by
  constructor
  case database =>
    change (layer.applyNames config).database =
      (layer.database.map Config.databaseNamed).getD config.database
    dsimp only [applyNames]
    cases layer.database <;> rfl
  case username => exact Option.orElse_eq_or ..
  case password => exact Option.orElse_eq_or ..
  all_goals intros; rfl

theorem layer (profile : Driver.Profile) (layer : Layer) (config : Config) :
    Laid (fun _ setting => setting.of? profile layer) config (laid profile config layer) :=
  (target (layer.parsed? profile) config).trans (fields layer _)

/-- Laying layers one after the other lays what the last of them sets. -/
theorem layers (profile : Driver.Profile) (layers : List Layer) (config : Config) :
    Laid (fun _ setting => setting.last? profile layers) config
      (layers.foldl (laid profile) config) := by
  induction layers generalizing config with
  | nil => exact refl config
  | cons first layers ih =>
    have later := (layer profile first config).trans (ih (laid profile config first))
    have same (α : Type) (setting : Setting α) : setting.last? profile (first :: layers) =
        (setting.last? profile layers).or (setting.of? profile first) := by
      rw [Setting.last?, List.reverse_cons, List.findSome?_append]
      exact congrArg _ List.findSome?_singleton
    rw [List.foldl_cons]
    simpa only [same] using later

end Laid

/-- The steps of a list of layers are refused for the first fault in the list. -/
theorem foldlM_apply_eq (profile : Driver.Profile) (layers : List Layer) (config : Config) :
    layers.foldlM (apply profile) config =
      unlessFaulty (layers.flatMap (faults profile)) (layers.foldl (laid profile) config) := by
  induction layers generalizing config with
  | nil => rfl
  | cons layer layers ih =>
    rw [List.foldlM_cons, apply_eq, List.flatMap_cons, List.foldl_cons, funext ih,
      unlessFaulty_bind _ _ _ fun config => layers.foldl (laid profile) config]

/-! ### The configuration of a list of layers -/

/-- What comes of a list of layers. -/
structure Resolved (profile : Driver.Profile) (layers : List Layer)
    (outcome : Except Error Config) : Prop where
  /-- Without a faulty layer it is the defaults with what the last layer sets of each setting. -/
  ok_iff : ∀ config, outcome = .ok config ↔ (∀ layer ∈ layers, ¬ layer.Faulty profile) ∧
    Laid (fun _ setting => setting.last? profile layers) (defaults profile) config
  fails_iff : (∃ cause, outcome = .error cause) ↔ ∃ layer ∈ layers, layer.Faulty profile
  /-- The error is the first fault of the first faulty layer. -/
  error_iff : ∀ cause, outcome = .error cause ↔
    (layers.flatMap (faults profile)).head? = some cause
  /-- Without targets, port and timeout are up to the fields that are called so. -/
  of_no_target : (∀ layer ∈ layers, layer.url = none) → ∀ config, outcome = .ok config →
    config.port = (layers.reverse.findSome? Layer.port).getD profile.defaultPort ∧
    config.connectTimeout = (layers.reverse.findSome? Layer.connectTimeout).getD 10000

theorem resolved (profile : Driver.Profile) (layers : List Layer) :
    Resolved profile layers (resolve profile layers) := by
  have outcome := foldlM_apply_eq profile layers (defaults profile)
  have settled := Laid.layers profile layers (defaults profile)
  have faultless : (∀ layer ∈ layers, ¬ layer.Faulty profile) ↔
      layers.flatMap (faults profile) = [] := by
    simp only [List.flatMap_eq_nil_iff, faults_eq_nil_iff]
  have ok_iff (config : Config) : resolve profile layers = .ok config ↔
      (∀ layer ∈ layers, ¬ layer.Faulty profile) ∧
        Laid (fun _ setting => setting.last? profile layers) (defaults profile) config := by
    rw [resolve, outcome, faultless]
    generalize layers.flatMap (faults profile) = met
    cases met with
    | nil =>
      simp only [unlessFaulty, Except.ok.injEq, true_and]
      exact ⟨fun same => same ▸ settled, settled.unique⟩
    | cons cause met => simp [unlessFaulty]
  refine ⟨ok_iff, ?_, fun cause => ?_, fun bare config ok => ?_⟩
  · have refused := not_congr faultless
    push Not at refused
    rw [refused, resolve, outcome]
    simp only [unlessFaulty_eq_error_iff]
    rw [← Option.isSome_iff_exists, List.isSome_head?]
  · rw [resolve, outcome, unlessFaulty_eq_error_iff]
  · have settled := ((ok_iff config).mp ok).2
    rw [settled.port, settled.connectTimeout, Setting.last?_of_no_target _ _ bare,
      Setting.last?_of_no_target _ _ bare]
    exact ⟨rfl, rfl⟩

/-- Each field of a target is settled by the last layer that sets it, the first fault of the layers
is the error, and laying the same layers once more changes nothing. -/
theorem resolve_last_setter (profile : Driver.Profile) (layers : List Layer) :
    Resolved profile layers (resolve profile layers) ∧
      resolve profile (layers ++ layers) = resolve profile layers := by
  refine ⟨resolved profile layers, ?_⟩
  have twice := resolved profile (layers ++ layers)
  cases once : resolve profile layers with
  | error cause =>
    rw [twice.error_iff, List.flatMap_append, List.head?_append,
      ((resolved profile layers).error_iff cause).mp once]
    rfl
  | ok config =>
    obtain ⟨faultless, settled⟩ := ((resolved profile layers).ok_iff config).mp once
    refine (twice.ok_iff config).mpr ⟨fun layer member => ?_, ?_⟩
    · exact faultless layer (by simpa using member)
    · simpa only [Setting.last?_append_self] using settled

end Layer

end SqlProbe
