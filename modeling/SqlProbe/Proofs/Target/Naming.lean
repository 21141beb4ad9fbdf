import SqlProbe.Proofs.Properties.Applying
import SqlProbe.Proofs.Target.RoundTrip

/-!
# What a target names

A configuration does not say which of its parts the text of a target has named and which are there
for lack of a name. The text does: a port stands behind its host, a user name and a password stand
before the at sign, and all of them but the port may also be properties, which come after the rest
and so have the last word.
-/

namespace SqlProbe.Target

open Properties (Change)

/-! ### The parts of a target -/

/-- The URL that a target writes; a bare target writes none. -/
def url? (target : String) : Option Url :=
  let text := dropJdbc (Text.trim target.toList)
  if hasAuthorityMark text then (Url.parse text).toOption else none

/-- The port behind the host of a bare target. -/
def barePort? (text : List Char) : Option UInt16 :=
  let authority := ((Text.cutAt? '/' text).getD (text, [])).1
  ((cutAuthority text authority).toOption.bind (·.2)).bind fun port =>
    (Text.natural? 65535 port).map Nat.toUInt16

/-- The port that a target names. -/
def namedPort? (target : String) : Option UInt16 :=
  match url? target with
  | some url => url.port
  | none => barePort? (Text.trim target.toList)

/-- The properties of a target. -/
def properties (target : String) : Properties :=
  (((url? target).bind Url.query).bind fun query =>
    (Properties.parseQuery (String.ofList query)).toOption).getD .empty

/-- What the properties of a target change, in the order in which they are applied. -/
def changes (target : String) : List Change := Properties.changes (properties target).ordered

/-- How long a connect may take by the properties of a target, the last of which counts. -/
def namedTimeout? (target : String) : Option Nat :=
  ((changes target).filterMap Change.timeout?).getLast?

/-- The user name among the properties of a target. -/
def userProperty? (target : String) : Option String :=
  ((changes target).filterMap Change.username?).getLast?

/-- The password among the properties of a target. -/
def passwordProperty? (target : String) : Option String :=
  ((changes target).filterMap Change.password?).getLast?

/-- The user name before the at sign, where an empty one is none. -/
def userinfoUser? (target : String) : Option String :=
  (url? target).bind fun url =>
    if url.username = [] then none else (decodePart url.username).toOption

/-- The password before the at sign, where an empty one is none. -/
def userinfoPassword? (target : String) : Option String :=
  ((url? target).bind fun url => url.password.bind fun word => (decodePart word).toOption).filter
    (· ≠ "")

/-- The user name that a target names. -/
def namedUser? (target : String) : Option String := (userProperty? target).or (userinfoUser? target)

/-- The password that a target names. -/
def namedPassword? (target : String) : Option String :=
  (passwordProperty? target).or (userinfoPassword? target)

/-! ### What is made of them -/

/-- A configuration is what a target says, with defaults for what it does not name. -/
structure Told (target : String) (parsed : Config) : Prop where
  port : parsed.port = (namedPort? target).getD defaultPort
  connectTimeout : parsed.connectTimeout = (namedTimeout? target).getD 10000
  username : parsed.username = namedUser? target
  /-- A user name before the at sign makes a password, even if there is none. -/
  password : parsed.password = (passwordProperty? target).or
    ((userinfoUser? target).map fun _ => (userinfoPassword? target).getD "")

/-- Properties change what stands before the question mark. -/
theorem told_of_foldl {target : String} {base parsed : Config}
    (settled : (changes target).foldl Change.apply base = parsed)
    (port : base.port = (namedPort? target).getD defaultPort)
    (timeout : base.connectTimeout = 10000) (username : base.username = userinfoUser? target)
    (password : base.password =
      (userinfoUser? target).map fun _ => (userinfoPassword? target).getD "") :
    Told target parsed := by
  subst settled
  constructor
  · rw [Properties.frame_foldl_apply, port]
  · rw [Properties.timeout_foldl_apply_eq_getLast?, timeout, namedTimeout?]
  · have last := Properties.Slot.username.get?_foldl_apply (changes target) base
    exact last.trans (congrArg _ username)
  · have last := Properties.Slot.password.get?_foldl_apply (changes target) base
    exact last.trans (congrArg _ password)

theorem userinfo_of_credentials {target : String} {url : Url} (writes : url? target = some url)
    {username password : Option String} (read : urlCredentials url = .ok (username, password)) :
    username = userinfoUser? target ∧
      password = (userinfoUser? target).map fun _ => (userinfoPassword? target).getD "" := by
  rw [userinfoUser?, userinfoPassword?, writes]
  rw [urlCredentials] at read
  split at read
  · next nobody =>
    cases read
    simp [nobody]
  · next named =>
    obtain ⟨user, decoded, read⟩ := Properties.bind_eq_ok_iff.mp read
    obtain ⟨word, given, read⟩ := Properties.bind_eq_ok_iff.mp read
    cases read
    have who : (some url).bind (fun url =>
        if url.username = [] then none else (decodePart url.username).toOption) = some user := by
      rw [Option.bind_some, if_neg named, decoded]
      rfl
    have same : (((some url).bind fun url => url.password.bind fun word =>
        (decodePart word).toOption).filter (· ≠ "")).getD "" = word := by
      rw [Option.bind_some]
      cases missing : url.password with
      | none =>
        rw [missing, Option.getD_none] at given
        exact Except.ok.inj (decodePart_nil.symm.trans given)
      | some cs =>
        rw [missing, Option.getD_some] at given
        by_cases empty : word = "" <;> simp [given, Except.toOption, Option.filter, empty]
    rw [who, Option.map_some, same]
    exact ⟨rfl, rfl⟩

theorem changes_of_no_query {target : String} (missing : (url? target).bind Url.query = none) :
    changes target = [] := by
  have nothing : Properties.empty.ordered = [] := (Properties.ordered_perm .empty).eq_nil
  rw [changes, properties, missing, Option.bind_none, Option.getD_none, nothing]
  rfl

/-- What the reader of URLs makes of one. -/
theorem told_of_ofUrl {target : String} {text : List Char} {url : Url} {parsed : Config}
    (writes : url? target = some url) (accepted : ofUrl text url = .ok parsed) :
    Told target parsed := by
  have port : url.port.getD defaultPort = (namedPort? target).getD defaultPort := by
    rw [namedPort?, writes]
  rw [ofUrl] at accepted
  split at accepted
  · cases accepted
  · dsimp only at accepted
    split at accepted
    · obtain ⟨⟨username, password⟩, who, accepted⟩ := Properties.bind_eq_ok_iff.mp accepted
      obtain ⟨user, word⟩ := userinfo_of_credentials writes who
      dsimp only at accepted
      obtain ⟨database, -, accepted⟩ := Properties.bind_eq_ok_iff.mp accepted
      split at accepted
      · next missing =>
        have nothing : changes target = [] := changes_of_no_query (by rw [writes]; exact missing)
        have settled := (congrArg (List.foldl Change.apply _) nothing).trans (Except.ok.inj accepted)
        exact told_of_foldl settled port rfl user word
      · next query given =>
        obtain ⟨bag, read, applied⟩ := Properties.bind_eq_ok_iff.mp accepted
        have bagged : changes target = Properties.changes bag.ordered := by
          rw [changes, properties, writes, Option.bind_some, given, Option.bind_some, read]
          rfl
        have settled := (Properties.applyTo_eq_ok_iff.mp applied).2
        rw [← bagged] at settled
        exact told_of_foldl settled port rfl user word
    · cases accepted

/-- What the reader of bare targets makes of one. -/
theorem told_of_parseBare {target : String} {parsed : Config} (writes : url? target = none)
    (accepted : parseBare (Text.trim target.toList) = .ok parsed) : Told target parsed := by
  have named : namedPort? target = barePort? (Text.trim target.toList) := by
    rw [namedPort?, writes]
  have nobody : userinfoUser? target = none := by rw [userinfoUser?, writes, Option.bind_none]
  rw [parseBare] at accepted
  dsimp only at accepted
  obtain ⟨⟨host, digits⟩, cut, accepted⟩ := Properties.bind_eq_ok_iff.mp accepted
  dsimp only at accepted
  split at accepted
  · cases accepted
  · obtain ⟨number, read, same⟩ := Properties.bind_eq_ok_iff.mp accepted
    have port : number = (namedPort? target).getD defaultPort := by
      rw [named, barePort?, cut]
      cases digits with
      | none => exact (Except.ok.inj read).symm
      | some cs =>
        rw [readPort] at read
        split at read
        · next n natural =>
          cases read
          simp [Except.toOption, natural]
        · cases read
    have nothing : changes target = [] := changes_of_no_query (by rw [writes]; rfl)
    have settled := (congrArg (List.foldl Change.apply _) nothing).trans (Except.ok.inj same)
    exact told_of_foldl settled port rfl (by rw [nobody]; rfl) (by rw [nobody]; rfl)

/-- A target that is accepted is read as what it names. -/
theorem told_of_parse {target : String} {parsed : Config} (accepted : parse target = .ok parsed) :
    Told target parsed := by
  rw [parse] at accepted
  split at accepted
  · cases accepted
  · split at accepted
    · next marked =>
      rw [parseUrl] at accepted
      split at accepted
      · next url read =>
        refine told_of_ofUrl ?_ accepted
        rw [url?, if_pos marked, read]
        rfl
      · cases accepted
    · next bare => exact told_of_parseBare (if_neg bare) accepted

end SqlProbe.Target
