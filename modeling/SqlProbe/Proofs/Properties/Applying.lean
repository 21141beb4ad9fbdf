import SqlProbe.Proofs.Properties.Order

/-!
# What properties do to a configuration

A property is a change to one part of a configuration, and neither whether it is accepted nor what
the change is depends on the configuration. So a bag is accepted exactly if each of its properties
is, and every part of the result is made by the changes to that part alone.
-/

namespace SqlProbe

/-- The files that transport security may be given. -/
inductive Tls.PathKind where
  | ca
  | clientCert
  | clientKey
  deriving DecidableEq, Repr

namespace Tls.Settings

/-- The file of a kind, if it is given. -/
def path? (tls : Settings) : PathKind → Option String
  | .ca => tls.caCert
  | .clientCert => tls.clientCert
  | .clientKey => tls.clientKey

/-- The settings with a file given. -/
def withPath (tls : Settings) (kind : PathKind) (path : String) : Settings :=
  match kind with
  | .ca => { tls with caCert := some path }
  | .clientCert => { tls with clientCert := some path }
  | .clientKey => { tls with clientKey := some path }

end Tls.Settings

namespace Properties

/-- What a property changes. -/
inductive Change where
  | username (name : String)
  | password (word : String)
  | database (name : String)
  | useTls (on : Bool)
  | requireTls (on : Bool)
  | tlsMode (mode : Tls.Mode)
  | tlsPath (kind : Tls.PathKind) (path : String)
  | timeout (milliseconds : Nat)
  | param (key value : String)
  deriving DecidableEq

namespace Change

def username? : Change → Option String
  | username name => some name
  | _ => none

def password? : Change → Option String
  | password word => some word
  | _ => none

def database? : Change → Option (Option String)
  | database name => some (Config.databaseNamed name)
  | _ => none

def timeout? : Change → Option Nat
  | timeout milliseconds => some milliseconds
  | _ => none

def param? : Change → Option (String × String)
  | param key value => some (key, value)
  | _ => none

/-- The change is one of the transport security. -/
def isTls : Change → Bool
  | useTls _ | requireTls _ | tlsMode _ | tlsPath .. => true
  | _ => false

/-- What a change makes of the transport security. -/
def secure (tls : Tls.Settings) : Change → Tls.Settings
  | useTls true => if tls.mode = .disable then { tls with mode := .prefer } else tls
  | useTls false => .disabled
  | requireTls true => { tls with mode := .require }
  | tlsMode mode => { tls with mode, verifyServer := mode.verifies }
  | tlsPath kind path => tls.withPath kind path
  | _ => tls

/-- The configuration with a change made. -/
def apply (config : Config) (change : Change) : Config :=
  { config with
    username := change.username?.or config.username
    password := change.password?.or config.password
    database := change.database?.getD config.database
    tls := change.secure config.tls
    connectTimeout := change.timeout?.getD config.connectTimeout
    params := match change.param? with
      | some (key, value) => config.params.insert key value
      | none => config.params }

end Change

/-- The change of a property with a meaning. -/
def changeOf (meaning : Meaning) (key value : String) : Except Error Change :=
  match meaning with
  | .user => .ok (.username value)
  | .password => .ok (.password value)
  | .database => .ok (.database value)
  | .useSsl => (flag key value).map .useTls
  | .requireSsl => (flag key value).map .requireTls
  | .sslMode => (Tls.Mode.parse value).map .tlsMode
  | .sslCa => .ok (.tlsPath .ca value)
  | .sslCert => .ok (.tlsPath .clientCert value)
  | .sslKey => .ok (.tlsPath .clientKey value)
  | .serverTimeZone => (timeZone value).map (.param timeZoneParam)
  | .characterEncoding => (characterEncoding value).map (.param encodingParam)
  | .connectTimeout => (milliseconds key value).map .timeout
  | .readOnly => (flag key value).map fun on => .param readOnlyParam (if on then "true" else "false")

/-- The change that a property stands for. -/
def change (entry : String × String) : Except Error Change :=
  match Meaning.ofName? (normalize entry.1) with
  | some meaning => changeOf meaning entry.1 entry.2
  | none => .ok (.param entry.1 entry.2)

theorem change_of_meaning {key : String} {meaning : Meaning}
    (means : Meaning.ofName? (normalize key) = some meaning) (value : String) :
    change (key, value) = changeOf meaning key value := by
  rw [change, means]

theorem exists_of_map {ε α β : Type} {result : Except ε α} {make : α → β} {made : β}
    (same : result.map make = .ok made) : ∃ value, result = .ok value ∧ make value = made := by
  cases result with
  | error cause => cases same
  | ok value => exact ⟨value, rfl, Except.ok.inj same⟩

/-- A file is given as it is written. -/
theorem snd_eq_of_change {entry : String × String} {kind : Tls.PathKind} {path : String}
    (stands : change entry = .ok (.tlsPath kind path)) : entry.2 = path := by
  unfold change at stands
  split at stands
  · next meaning _ =>
    cases meaning with
    | user | password | database => cases stands
    | sslCa | sslCert | sslKey =>
      cases stands
      rfl
    | _ =>
      rw [changeOf] at stands
      obtain ⟨value, -, made⟩ := exists_of_map stands
      cases made
  · cases stands

theorem applyMeaning_eq (config : Config) (meaning : Meaning) (key value : String) :
    applyMeaning config meaning key value =
      (changeOf meaning key value).map (Change.apply config) := by
  cases meaning with
  | user | password | database | sslCa | sslCert | sslKey => rfl
  | useSsl =>
    simp only [applyMeaning, changeOf]
    cases flag key value with
    | error cause => rfl
    | ok on =>
      cases on with
      | false => rfl
      | true =>
        change (if config.tls.mode = .disable then _ else _) = Except.ok (Change.apply config _)
        simp only [Change.apply, Change.secure]
        split <;> rfl
  | requireSsl =>
    simp only [applyMeaning, changeOf]
    cases flag key value with
    | error cause => rfl
    | ok on => cases on <;> rfl
  | sslMode =>
    simp only [applyMeaning, changeOf]
    cases Tls.Mode.parse value <;> rfl
  | serverTimeZone =>
    simp only [applyMeaning, changeOf]
    cases timeZone value <;> rfl
  | characterEncoding =>
    simp only [applyMeaning, changeOf]
    cases Properties.characterEncoding value <;> rfl
  | connectTimeout =>
    simp only [applyMeaning, changeOf]
    cases milliseconds key value <;> rfl
  | readOnly =>
    simp only [applyMeaning, changeOf]
    cases flag key value <;> rfl

theorem applyOne_eq (config : Config) (entry : String × String) :
    applyOne config entry = (change entry).map (Change.apply config) := by
  unfold applyOne change
  cases Meaning.ofName? (normalize entry.1) with
  | some meaning => exact applyMeaning_eq ..
  | none => rfl

/-! ### Several properties -/

/-- The changes that properties stand for, those that are refused left out. -/
def changes (entries : List (String × String)) : List Change :=
  entries.filterMap fun entry => (change entry).toOption

/-- Every one of the properties is accepted. -/
def Accepted (entries : List (String × String)) : Prop :=
  ∀ entry ∈ entries, (change entry).toOption.isSome

instance (entries : List (String × String)) : Decidable (Accepted entries) :=
  inferInstanceAs (Decidable (∀ entry ∈ entries, _))

@[simp] theorem changes_append (as bs : List (String × String)) :
    changes (as ++ bs) = changes as ++ changes bs := List.filterMap_append

theorem changes_cons {entry : String × String} {made : Change} (stands : change entry = .ok made)
    (entries : List (String × String)) : changes (entry :: entries) = made :: changes entries := by
  rw [changes, List.filterMap_cons, stands]
  rfl

theorem Accepted.perm {as bs : List (String × String)} (perm : as.Perm bs) :
    Accepted as ↔ Accepted bs :=
  forall_congr' fun _ => imp_congr_left perm.mem_iff

/-- Properties are applied exactly if each is accepted, and make their changes in turn. -/
theorem foldlM_applyOne (entries : List (String × String)) (config : Config) :
    (entries.foldlM applyOne config).toOption =
      if Accepted entries then some ((changes entries).foldl Change.apply config) else none := by
  induction entries generalizing config with
  | nil => rfl
  | cons entry entries ih =>
    rw [List.foldlM_cons, applyOne_eq]
    cases stands : change entry with
    | error cause =>
      have refused : ¬ Accepted (entry :: entries) := fun accepted => by
        have some := accepted entry List.mem_cons_self
        rw [stands] at some
        exact absurd some Bool.false_ne_true
      rw [if_neg refused]
      rfl
    | ok made =>
      have same : Accepted (entry :: entries) ↔ Accepted entries := by
        refine List.forall_mem_cons.trans (and_iff_right ?_)
        rw [stands]
        rfl
      change (entries.foldlM applyOne (Change.apply config made)).toOption = _
      rw [ih, changes_cons stands, List.foldl_cons]
      simp only [same]

theorem applyTo_toOption (bag : Properties) (config : Config) :
    (bag.applyTo config).toOption = if Accepted bag.entries then
      some ((changes bag.ordered).foldl Change.apply config) else none := by
  rw [applyTo, foldlM_applyOne]
  simp only [Accepted.perm bag.ordered_perm]

theorem toOption_eq_some_iff {ε α : Type} {result : Except ε α} {value : α} :
    result.toOption = some value ↔ result = .ok value := by
  cases result <;> simp [Except.toOption]

theorem mem_changes_iff {entries : List (String × String)} {made : Change} :
    made ∈ changes entries ↔ ∃ entry ∈ entries, change entry = .ok made := by
  simp only [changes, List.mem_filterMap, toOption_eq_some_iff]

theorem applyTo_eq_ok_iff {bag : Properties} {config result : Config} :
    bag.applyTo config = .ok result ↔
      Accepted bag.entries ∧ (changes bag.ordered).foldl Change.apply config = result := by
  rw [← toOption_eq_some_iff, applyTo_toOption]
  split <;> simp [*]

/-! ### Parts of the result -/

/-- A part of a configuration that is one text, which the last change to it settles. -/
inductive Slot where
  | username
  | password
  | param (key : String)
  deriving DecidableEq

namespace Slot

/-- What stands in a slot. -/
def get? (config : Config) : Slot → Option String
  | username => config.username
  | password => config.password
  | param key => config.params.get? key

/-- What a change puts into a slot. -/
def put? (slot : Slot) (change : Change) : Option String :=
  match slot with
  | username => change.username?
  | password => change.password?
  | param key => (change.param?.filter fun param => param.1 == key).map (·.2)

theorem put?_param (key value : String) : (param key).put? (.param key value) = some value := by
  simp [put?, Change.param?, Option.filter]

theorem get?_apply (slot : Slot) (config : Config) (change : Change) :
    slot.get? (change.apply config) = (slot.put? change).or (slot.get? config) := by
  cases slot with
  | username => rfl
  | password => rfl
  | param key =>
    cases change with
    | param name value =>
      change (config.params.insert name value).get? key = _
      rw [SortedMap.get?_insert]
      by_cases same : name = key <;> simp [put?, get?, Change.param?, Option.filter, same]
    | _ => rfl

/-- The last change to a slot settles it. -/
theorem get?_foldl_apply (slot : Slot) (made : List Change) (config : Config) :
    slot.get? (made.foldl Change.apply config) =
      ((made.filterMap slot.put?).getLast?).or (slot.get? config) := by
  induction made generalizing config with
  | nil => rfl
  | cons change made ih =>
    rw [List.foldl_cons, ih, get?_apply, List.filterMap_cons]
    cases slot.put? change with
    | none => rfl
    | some value =>
      dsimp only [Option.or]
      rw [List.getLast?_cons]
      cases (made.filterMap slot.put?).getLast? <;> rfl

theorem get?_foldl_apply_eq_foldl (slot : Slot) (made : List Change) (config : Config) :
    slot.get? (made.foldl Change.apply config) =
      made.foldl (fun held change => (slot.put? change).or held) (slot.get? config) :=
  (List.foldl_hom slot.get? fun config change => (slot.get?_apply config change).symm).symm

end Slot

section
variable (made : List Change) (config : Config)

theorem tls_foldl_apply :
    (made.foldl Change.apply config).tls = made.foldl Change.secure config.tls :=
  (List.foldl_hom Config.tls fun _ _ => rfl).symm

theorem database_foldl_apply : (made.foldl Change.apply config).database =
    made.foldl (fun database change => change.database?.getD database) config.database :=
  (List.foldl_hom Config.database fun _ _ => rfl).symm

theorem timeout_foldl_apply : (made.foldl Change.apply config).connectTimeout =
    made.foldl (fun timeout change => change.timeout?.getD timeout) config.connectTimeout :=
  (List.foldl_hom Config.connectTimeout fun _ _ => rfl).symm

/-- The last change of the timeout settles it. -/
theorem timeout_foldl_apply_eq_getLast? :
    (made.foldl Change.apply config).connectTimeout =
      ((made.filterMap Change.timeout?).getLast?).getD config.connectTimeout := by
  induction made generalizing config with
  | nil => rfl
  | cons change made ih =>
    rw [List.foldl_cons, ih, List.filterMap_cons]
    cases stands : change.timeout? with
    | none => simp [Change.apply, stands]
    | some milliseconds =>
      dsimp only
      rw [List.getLast?_cons]
      cases (made.filterMap Change.timeout?).getLast? <;> simp [Change.apply, stands]

/-- Changes to transport security leave everything else as it is. -/
theorem foldl_apply_of_tls (only : ∀ change ∈ made, change.isTls = true) :
    made.foldl Change.apply config = { config with tls := made.foldl Change.secure config.tls } := by
  induction made generalizing config with
  | nil => rfl
  | cons change made ih =>
    have first : change.apply config = { config with tls := change.secure config.tls } := by
      cases change <;> first | rfl | exact absurd (only _ List.mem_cons_self) Bool.false_ne_true
    rw [List.foldl_cons, first, ih _ fun other member => only other (List.mem_cons_of_mem _ member)]
    rfl

/-- What no property changes. -/
theorem frame_foldl_apply : made.foldl Change.apply config =
    { made.foldl Change.apply config with
      name := config.name, driver := config.driver, host := config.host, port := config.port } := by
  induction made generalizing config with
  | nil => rfl
  | cons change made ih => exact ih _

/-- Configurations that properties have made of one are the same if all their parts are. -/
theorem foldl_apply_eq_iff {other : List Change} :
    made.foldl Change.apply config = other.foldl Change.apply config ↔
      (made.foldl Change.apply config).database = (other.foldl Change.apply config).database ∧
      (made.foldl Change.apply config).connectTimeout =
        (other.foldl Change.apply config).connectTimeout ∧
      (made.foldl Change.apply config).tls = (other.foldl Change.apply config).tls ∧
      ∀ slot : Slot, slot.get? (made.foldl Change.apply config) =
        slot.get? (other.foldl Change.apply config) := by
  refine ⟨fun same => by simp only [same, implies_true, and_self], ?_⟩
  rintro ⟨database, timeout, tls, slots⟩
  have params : (made.foldl Change.apply config).params = (other.foldl Change.apply config).params :=
    SortedMap.eq_of_get? fun key => slots (.param key)
  rw [frame_foldl_apply made, frame_foldl_apply other]
  dsimp only
  have username : (made.foldl Change.apply config).username = _ := slots .username
  have password : (made.foldl Change.apply config).password = _ := slots .password
  rw [database, timeout, tls, params, username, password]
  rfl

end

end Properties

end SqlProbe
