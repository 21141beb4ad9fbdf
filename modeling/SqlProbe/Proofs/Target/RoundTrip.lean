import SqlProbe.Proofs.Tls.Parameters
import SqlProbe.Proofs.Url.Authority
import SqlProbe.Proofs.Url.Path
import SqlProbe.Target.Build

/-!
# Targets there and back

A configuration that is written as a URL and read again keeps its target, its credentials and the
mode of its transport security. Encoding leaves nothing in user name, password and database that could end them,
the host has nothing to encode, and neither blanks nor dot segments are there to be taken away.
-/

namespace SqlProbe.Target

open Text.Percent (encode)

/-! ### The text of a URL -/

/-- A text of a URL part, encoded. -/
abbrev encoded (s : String) : List Char := encode Char.isAlphanum s.toList

theorem toList_encodePart (s : String) : (encodePart s).toList = encoded s := String.toList_ofList

theorem decodePart_encoded (s : String) : decodePart (encoded s) = .ok s := by
  rw [decodePart, Text.Percent.decode_encode (by decide)]
  exact congrArg _ String.ofList_toList

/-- A text of visible characters without a percent sign is decoded to itself. -/
theorem decodePart_of_plain {cs : List Char}
    (plain : ∀ c ∈ cs, Text.isVisible c = true ∧ c ≠ '%') : decodePart cs = .ok (String.ofList cs) := by
  let keep (c : Char) : Bool := c != '%'
  have kept : encode keep cs = cs := Text.Percent.encode_of_kept fun c member => by
    have range := Text.isVisible_iff.mp (plain c member).1
    exact ⟨by omega, bne_iff_ne.mpr (plain c member).2⟩
  have escapes : keep '%' = false := by decide
  have read := Text.Percent.decode_encode escapes cs
  rw [kept] at read
  rw [decodePart, read]

theorem encoded_ne_nil {s : String} (nonempty : s ≠ "") : encoded s ≠ [] :=
  Text.Percent.encode_ne_nil (by decide) (mt String.toList_eq_nil_iff.mp nonempty)

theorem not_mem_encoded {c : Char} (special : c.isAlphanum = false) (other : c ≠ '%') (s : String) :
    c ∉ encoded s :=
  Text.Percent.not_mem_encode special other

/-- User name and password as they are written before a host. -/
def userinfo (user password : String) : List Char :=
  encoded user ++ if password = "" then [] else ':' :: encoded password

theorem credentials_userinfo (user password : String) : Url.credentials (userinfo user password) =
    (encoded user, if password = "" then none else some (encoded password)) := by
  have free := not_mem_encoded (c := ':') (by decide) (by decide) user
  by_cases empty : password = ""
  · rw [userinfo, if_pos empty, if_pos empty, List.append_nil, Url.credentials,
      Text.cutAt?_eq_none free]
  · obtain ⟨c, rest, same⟩ := List.exists_cons_of_ne_nil (encoded_ne_nil empty)
    rw [userinfo, if_neg empty, if_neg empty, Url.credentials, Text.cutAt?_append_cons free, same]

/-- The path of a database. -/
def databasePath : Option String → List Char
  | none => []
  | some database => '/' :: encoded database

/-- The query of security settings. -/
def securityQuery (tls : Tls.Settings) : Option (List Char) :=
  if tls.mode = .disable then none else some tls.parameters.toList

/-- What stands before the authority. -/
abbrev mark : List Char := ['m', 'y', 's', 'q', 'l', ':', '/', '/']

/-- What stands behind the mark, part by part. -/
def written (config : Config) (user : String) : List Char :=
  Url.userinfoText (userinfo user (config.password.getD "")) ++ (config.host.toList ++
    (Url.portText (some config.port) ++
      (databasePath config.database ++ Url.queryText (securityQuery config.tls))))

theorem toList_credentialsText {config : Config} {user : String}
    (name : config.username = some user) (named : user ≠ "") :
    (credentialsText config).toList =
      Url.userinfoText (userinfo user (config.password.getD "")) := by
  have given : userinfo user (config.password.getD "") ≠ [] :=
    List.append_ne_nil_of_left_ne_nil (encoded_ne_nil named) _
  rw [Url.userinfoText, if_neg given, credentialsText, name, userinfo]
  dsimp only
  cases config.password with
  | none => simp [toList_encodePart]
  | some password =>
    by_cases empty : password = "" <;> simp [toList_encodePart, empty]

theorem toList_authorityText {config : Config} (host : Url.IsPlainHost config.host.toList)
    (port : config.port ≠ 0) :
    (authorityText config).toList = config.host.toList ++ Url.portText (some config.port) := by
  have nonempty : config.host ≠ "" := fun empty => host.nonempty (by rw [empty]; rfl)
  have colon := host.not_mem (by decide : Url.isHostChar ':' = false)
  simp [authorityText, hostOf, portOf, nonempty, port, colon, Url.portText]

theorem build_eq {config : Config} {user : String} (name : config.username = some user)
    (named : user ≠ "") (host : Url.IsPlainHost config.host.toList) (port : config.port ≠ 0) :
    build config = String.ofList (mark ++ written config user) := by
  have query : (if config.tls.mode = .disable then "" else "?" ++ config.tls.parameters).toList =
      Url.queryText (securityQuery config.tls) := by
    by_cases plain : config.tls.mode = .disable <;> simp [securityQuery, Url.queryText, plain]
  rw [← String.toList_inj, build, written, String.toList_append, String.toList_append,
    String.toList_append, String.toList_append, toList_credentialsText name named,
    toList_authorityText host port, query, String.toList_ofList]
  cases config.database with
  | none => simp [databasePath]
  | some database => simp [databasePath, toList_encodePart]

/-! ### Reading it -/

/-- A text without blanks behind the mark is read as an authority. -/
theorem parse_mark {rest : List Char} (visible : ∀ c ∈ rest, Text.isVisible c = true) {url : Url}
    (read : Url.parseAuthority ['m', 'y', 's', 'q', 'l'] rest = .ok url) :
    parse (String.ofList (mark ++ rest)) = ofUrl (mark ++ rest) url := by
  have start : ∀ c ∈ mark, Text.isVisible c = true := List.all_eq_true.mp (by decide)
  have whole : ∀ c ∈ mark ++ rest, Text.isVisible c = true := fun c member =>
    (List.mem_append.mp member).elim (start c) (visible c)
  have parsed : Url.parse (mark ++ rest) = .ok url := by
    rw [Url.parse, Url.clean_of_visible whole]
    exact read
  rw [parse, String.toList_ofList, Text.trim_of_visible whole]
  change parseUrl (mark ++ rest) = _
  rw [parseUrl, parsed]

theorem urlHost?_of_plain {url : Url} {host : String} (plain : Url.IsPlainHost host.toList)
    (given : url.host = some host.toList) : urlHost? url = some host := by
  have opening : ∀ c ∈ host.toList, (c == '[') = false := fun c member => by
    simpa using Url.ne_of_isHostChar (plain.plain c member) (by decide)
  have closing : ∀ c ∈ host.toList.reverse, (c == ']') = false := fun c member => by
    simpa using Url.ne_of_isHostChar (plain.plain c (List.mem_reverse.mp member)) (by decide)
  rw [urlHost?, given, Option.map_some, dropTrailing, dropLeading, dropLeading,
    Text.dropWhile_of_forall opening, Text.dropWhile_of_forall closing, List.reverse_reverse,
    String.ofList_toList]

theorem decodePart_nil : decodePart [] = .ok "" := decodePart_encoded ""

theorem urlCredentials_encoded {url : Url} {user password : String} (named : user ≠ "")
    (username : url.username = encoded user)
    (given : url.password = if password = "" then none else some (encoded password)) :
    urlCredentials url = .ok (some user, some password) := by
  have word : decodePart (url.password.getD []) = .ok password := by
    rw [given]
    split
    · next empty => rw [empty]; exact decodePart_nil
    · exact decodePart_encoded password
  rw [urlCredentials, username, if_neg (encoded_ne_nil named), decodePart_encoded, word]
  rfl

theorem pathOf_databasePath {database : Option String}
    (segment : ∀ text, database = some text → text ≠ "." ∧ text ≠ "..") :
    Url.pathOf .other (databasePath database) = databasePath database := by
  cases database with
  | none => rfl
  | some text =>
    obtain ⟨single, double⟩ := segment text rfl
    have free := not_mem_encoded (c := '/') (by decide) (by decide) text
    refine Url.pathOf_of_plain fun segment member => ?_
    rw [Text.splitAtChar_of_not_mem free] at member
    rw [List.mem_singleton.mp member]
    exact Url.isPlainSegment_encode (fun same => single (String.toList_inj.mp same))
      (fun same => double (String.toList_inj.mp same))

theorem decodePart_databasePath {database : Option String}
    (named : ∀ text, database = some text → text ≠ "") :
    ∃ text, decodePart (dropLeading '/' (databasePath database)) = .ok text ∧
      Config.databaseNamed text = database := by
  cases database with
  | none => exact ⟨"", decodePart_nil, rfl⟩
  | some text =>
    have free := not_mem_encoded (c := '/') (by decide) (by decide) text
    refine ⟨text, ?_, if_neg (named text rfl)⟩
    have same : dropLeading '/' (databasePath (some text)) = encoded text := by
      rw [databasePath, dropLeading, List.dropWhile_cons_of_pos (by decide)]
      exact Text.dropWhile_of_forall fun c member => by
        simpa using ne_of_mem_of_not_mem member free
    rw [same]
    exact decodePart_encoded text

section Security
variable {tls : Tls.Settings} (paths : ∀ kind, tls.path? kind = none)
include paths

theorem eq_of_no_paths : tls = { mode := tls.mode, verifyServer := tls.verifyServer } := by
  obtain ⟨mode, ca, cert, key, verify⟩ := tls
  cases (paths .ca : ca = none)
  cases (paths .clientCert : cert = none)
  cases (paths .clientKey : key = none)
  rfl

theorem asRead_of_no_paths (mode : tls.mode ≠ .allow) : tls.asRead = .ofMode tls.mode := by
  rw [eq_of_no_paths paths, Tls.Settings.asRead, if_neg mode]
  rfl

theorem isQueryChar_of_mem_parameters {c : Char} (member : c ∈ tls.parameters.toList) :
    Url.isQueryChar c = true ∧ Text.isVisible c = true := by
  rw [eq_of_no_paths paths] at member
  have every : ∀ c ∈ "ssl-mode=".toList ++ tls.mode.serverName.toList,
      (Url.isQueryChar c && Text.isVisible c) = true := by
    cases tls.mode <;> exact List.all_eq_true.mp (by decide)
  refine Bool.and_eq_true_iff.mp (every c ?_)
  simpa [Tls.Settings.parameters] using member

/-- Without paths the parameters give nothing but the mode. -/
theorem applyTo_parameters (mode : tls.mode ≠ .allow) {config : Config}
    (unsecured : config.tls = .disabled) :
    (Properties.parseQuery tls.parameters >>= fun bag => bag.applyTo config) =
      .ok { config with tls := .ofMode tls.mode } := by
  rw [Tls.Settings.parseQuery_parameters fun kind path given => by
    rw [paths kind] at given
    cases given]
  change (Properties.ofList tls.entries).applyTo config = _
  rw [Tls.Settings.applyTo_entries tls unsecured, asRead_of_no_paths paths mode]

end Security

/-! ### A configuration -/

/-- The URL that a configuration is written as. -/
def urlOf (config : Config) (user : String) : Url where
  scheme := ['m', 'y', 's', 'q', 'l']
  username := encoded user
  password := if config.password.getD "" = "" then none else some (encoded (config.password.getD ""))
  host := some config.host.toList
  port := some config.port
  path := databasePath config.database
  query := securityQuery config.tls

theorem mem_databasePath {database : Option String} {c : Char} (member : c ∈ databasePath database) :
    c = '/' ∨ c.isAlphanum = true ∨ c = '%' := by
  cases database with
  | none => cases member
  | some text => exact (List.mem_cons.mp member).imp id Text.Percent.isAlphanum_of_mem_encode

theorem mem_userinfo {user password : String} {c : Char} (member : c ∈ userinfo user password) :
    c = ':' ∨ c.isAlphanum = true ∨ c = '%' := by
  rcases List.mem_append.mp member with name | word
  · exact .inr (Text.Percent.isAlphanum_of_mem_encode name)
  · split at word
    · cases word
    · exact (List.mem_cons.mp word).imp id Text.Percent.isAlphanum_of_mem_encode

theorem startsBehind_databasePath (database : Option String) (query : Option (List Char)) :
    Url.StartsBehind (databasePath database ++ Url.queryText query) := by
  intro c first
  cases database with
  | some text => exact .inl (Option.some.inj first).symm
  | none =>
    cases query with
    | none => cases first
    | some query => exact .inr (.inl (Option.some.inj first).symm)

section Configuration
variable {config : Config} {user : String} (host : Url.IsPlainHost config.host.toList)
  (database : ∀ text, config.database = some text → text ≠ "" ∧ text ≠ "." ∧ text ≠ "..")
  (mode : config.tls.mode ≠ .allow) (paths : ∀ kind, config.tls.path? kind = none)

include paths

theorem isQueryChar_of_mem_securityQuery {query : List Char}
    (given : securityQuery config.tls = some query) {c : Char} (member : c ∈ query) :
    Url.isQueryChar c = true ∧ Text.isVisible c = true := by
  rw [securityQuery] at given
  split at given
  · cases given
  · cases given
    exact isQueryChar_of_mem_parameters paths member

include host

theorem isVisible_of_mem_written {c : Char} (member : c ∈ written config user) :
    Text.isVisible c = true := by
  have part {c : Char} (written : c.isAlphanum = true ∨ c = '%') : Text.isVisible c = true := by
    rcases written with alphanum | rfl
    · exact Text.isVisible_of_isAlphanum alphanum
    · rfl
  simp only [written, List.mem_append] at member
  rcases member with user | inside | digit | path | query
  · rcases Url.mem_userinfoText user with rfl | user
    · rfl
    · rcases mem_userinfo user with rfl | written
      · rfl
      · exact part written
  · exact Url.isVisible_of_isHostChar (host.plain c inside)
  · rcases (Url.writesPort_portText _).eq_or_isDigit digit with rfl | digit
    · rfl
    · exact part (.inl (by simp [Char.isAlphanum, digit]))
  · rcases mem_databasePath path with rfl | written
    · rfl
    · exact part written
  · cases given : securityQuery config.tls with
    | none =>
      rw [given] at query
      cases query
    | some text =>
      rw [given] at query
      rcases List.mem_cons.mp query with rfl | member
      · rfl
      · exact (isQueryChar_of_mem_securityQuery paths given member).2

include database

theorem parseAuthority_written : Url.parseAuthority ['m', 'y', 's', 'q', 'l'] (written config user) =
    .ok (urlOf config user) := by
  have free : ∀ c ∈ userinfo user (config.password.getD ""),
      Url.SchemeKind.other.endsAuthority c = false := by
    intro c member
    rcases mem_userinfo member with rfl | alphanum | rfl
    · rfl
    · exact Url.endsAuthority_of_isHostChar (by simp [Url.isHostChar, alphanum]) _
    · rfl
  have path : ∀ c ∈ databasePath config.database, c ≠ '?' ∧ c ≠ '#' := by
    intro c member
    rcases mem_databasePath member with rfl | alphanum | rfl
    · decide
    · constructor <;> rintro rfl <;> cases alphanum
    · decide
  have query : ∀ text, securityQuery config.tls = some text → ∀ c ∈ text,
      c.toNat < 0x80 ∧ Url.isQueryChar c = true := by
    intro text given c member
    obtain ⟨kept, visible⟩ := isQueryChar_of_mem_securityQuery paths given member
    have range := Text.isVisible_iff.mp visible
    exact ⟨by omega, kept⟩
  rw [written, Url.parseAuthority_eq rfl free host (Url.writesPort_portText _)
      (startsBehind_databasePath _ _),
    Url.pathAndQuery_append path query, pathOf_databasePath fun text given => (database text given).2,
    credentials_userinfo, urlOf]

include mode

/-- The URL is read as the configuration. -/
theorem ofUrl_urlOf (named : user ≠ "") (text : List Char) : ofUrl text (urlOf config user) = .ok {
    Config.mysqlDefault with
      host := config.host, port := config.port, username := some user
      password := some (config.password.getD ""), database := config.database
      tls := .ofMode config.tls.mode } := by
  obtain ⟨name, decoded, same⟩ := decodePart_databasePath fun text given => (database text given).1
  have who : urlCredentials (urlOf config user) = .ok (some user, some (config.password.getD "")) :=
    urlCredentials_encoded named rfl rfl
  have path : decodePart (dropLeading '/' (urlOf config user).path) = .ok name := decoded
  have ok_bind {α β : Type} (a : α) (next : α → Except Error β) : Except.ok a >>= next = next a := rfl
  rw [ofUrl, if_neg fun other => other rfl]
  dsimp only
  rw [urlHost?_of_plain host rfl]
  dsimp only
  rw [who, ok_bind]
  dsimp only
  rw [path, ok_bind, same]
  by_cases plain : config.tls.mode = .disable
  · have query : (urlOf config user).query = none := if_pos plain
    rw [query, plain]
    rfl
  · have query : (urlOf config user).query = some config.tls.parameters.toList := if_neg plain
    rw [query]
    dsimp only
    rw [String.ofList_toList]
    exact applyTo_parameters paths mode rfl

end Configuration

/-- A configuration with a user name, a plain host and a port that is written as a URL is read back
with its target, its credentials and its mode; a password that is not given becomes an empty one. -/
theorem parse_build {config : Config} {user : String} (name : config.username = some user)
    (named : user ≠ "") (host : Url.IsPlainHost config.host.toList) (port : config.port ≠ 0)
    (database : ∀ text, config.database = some text → text ≠ "" ∧ text ≠ "." ∧ text ≠ "..")
    (mode : config.tls.mode ≠ .allow) (paths : ∀ kind, config.tls.path? kind = none) :
    parse (build config) = .ok { Config.mysqlDefault with
      host := config.host, port := config.port, username := some user
      password := some (config.password.getD ""), database := config.database
      tls := .ofMode config.tls.mode } := by
  rw [build_eq name named host port, parse_mark (fun c => isVisible_of_mem_written host paths)
    (parseAuthority_written host database paths)]
  exact ofUrl_urlOf host database mode paths named _

/-- No delimiter of a URL stands in the way. -/
theorem parse_build_delimiters :
    let config : Config := { Config.mysqlDefault with
      host := "db-1.Example_net", port := 3306, username := some "a@b:c/d?e#f%41 é+"
      password := some " p@ss:w/o?r#d%2F 日本", database := some "//a/../b?c#d%20\\e"
      tls := { mode := .verifyCa, verifyServer := false } }
    parse (build config) = .ok { config with tls := .ofMode .verifyCa } := by
  have plain : Url.IsPlainHost "db-1.Example_net".toList :=
    ⟨by decide, List.all_eq_true.mp (by decide)⟩
  refine parse_build rfl (by decide) plain (by decide) ?_ (by decide) ?_
  · rintro text ⟨⟩
    decide
  · intro kind
    cases kind <;> rfl

end SqlProbe.Target
