import Mathlib.Data.Set.Finite.Lemmas
import Mathlib.Data.String.Defs
import SqlProbe.Proofs.Properties.Applying
import SqlProbe.Proofs.Properties.Query

/-!
# Security parameters there and back

The settings are written as parameters as they stand, and a query is decoded when it is read. So
they come back exactly if no path has a character that the reader takes for something else. That no
path can owe its return to what another path spells follows from lengths: of the paths that have
an ampersand in them, the longest is longer than whatever the text holds between its ampersands.
-/

namespace SqlProbe.Tls

open Properties (IsPlain Reads byteLength change changes decodePart parseQuery)

instance : Fintype PathKind :=
  ⟨{.ca, .clientCert, .clientKey}, fun kind => by cases kind <;> decide⟩

/-- The parameter that gives a file. -/
def PathKind.parameter : PathKind → String
  | ca => "ssl-ca"
  | clientCert => "ssl-cert"
  | clientKey => "ssl-key"

/-- The meaning of the parameter that gives a file. -/
def PathKind.meaning : PathKind → Properties.Meaning
  | ca => .sslCa
  | clientCert => .sslCert
  | clientKey => .sslKey

theorem PathKind.change_parameter (kind : PathKind) (path : String) :
    change (kind.parameter, path) = .ok (.tlsPath kind path) := by
  have means : Properties.Meaning.ofName? (Properties.normalize kind.parameter) =
      some kind.meaning := by
    cases kind <;> decide
  rw [Properties.change_of_meaning means]
  cases kind <;> rfl

/-- Of the modes only `allow` has no name of its own. -/
theorem Mode.parse_serverName (mode : Mode) :
    parse mode.serverName = .ok (if mode = .allow then .prefer else mode) := by
  cases mode <;> rfl

theorem Mode.isPlain_serverName (mode : Mode) :
    '&' ∉ mode.serverName.toList ∧ IsPlain mode.serverName := by
  cases mode <;> decide

namespace Settings

/-! ### What is written -/

/-- The parameters of settings, each with its value as it stands. -/
def entries (tls : Settings) : List (String × String) :=
  ("ssl-mode", tls.mode.serverName) ::
    [PathKind.ca, .clientCert, .clientKey].filterMap fun kind =>
      (tls.path? kind).map fun path => (kind.parameter, path)

theorem mem_entries {tls : Settings} {entry : String × String} (member : entry ∈ tls.entries) :
    entry = ("ssl-mode", tls.mode.serverName) ∨
      ∃ kind path, tls.path? kind = some path ∧ entry = (kind.parameter, path) := by
  refine (List.mem_cons.mp member).imp id fun given => ?_
  obtain ⟨kind, -, given⟩ := List.mem_filterMap.mp given
  obtain ⟨path, given, same⟩ := Option.map_eq_some_iff.mp given
  exact ⟨kind, path, given, same.symm⟩

/-- The names of the parameters, in the order in which they are written and applied. -/
def names : List String := ["ssl-mode", "ssl-ca", "ssl-cert", "ssl-key"]

theorem names_sublist (tls : Settings) : (tls.entries.map Prod.fst).Sublist names := by
  obtain ⟨mode, ca, cert, key, verify⟩ := tls
  cases ca <;> cases cert <;> cases key <;> simp [entries, path?, PathKind.parameter, names]

/-- A parameter as it is written. -/
def pairText (entry : String × String) : List Char := entry.1.toList ++ '=' :: entry.2.toList

theorem toList_parameters (tls : Settings) :
    tls.parameters.toList = ['&'].intercalate (tls.entries.map pairText) := by
  obtain ⟨mode, ca, cert, key, verify⟩ := tls
  cases ca <;> cases cert <;> cases key <;>
    simp [parameters, entries, pairText, path?, PathKind.parameter]

/-- A name that every reader takes as it stands. -/
structure Clear (name : String) : Prop where
  ampersand : '&' ∉ name.toList
  equals : '=' ∉ name.toList
  plain : IsPlain name
  nonempty : name ≠ ""

theorem clear_of_mem {tls : Settings} {entry : String × String} (member : entry ∈ tls.entries) :
    Clear entry.1 := by
  have every : ∀ name ∈ names,
      '&' ∉ name.toList ∧ '=' ∉ name.toList ∧ IsPlain name ∧ name ≠ "" := by decide
  obtain ⟨ampersand, equals, plain, nonempty⟩ :=
    every _ (tls.names_sublist.mem (List.mem_map_of_mem member))
  exact ⟨ampersand, equals, plain, nonempty⟩

section Pair
variable {entry : String × String} (clear : Clear entry.1)
include clear

theorem cutPair_pairText :
    Properties.cutPair (pairText entry) = (entry.1.toList, entry.2.toList) := by
  rw [Properties.cutPair, pairText, Text.cutAt?_append_cons clear.equals]
  rfl

theorem reads_pairText_iff {read : String × String} :
    Reads (pairText entry) read ↔ read.1 = entry.1 ∧ decodePart entry.2.toList = .ok read.2 := by
  rw [Reads, cutPair_pairText clear, (Properties.decodePart_self_iff _).mpr clear.plain]
  constructor
  · rintro ⟨key, value, -⟩
    exact ⟨(Except.ok.inj key).symm, value⟩
  · rintro ⟨key, value⟩
    exact ⟨by rw [key], value, key ▸ clear.nonempty⟩

theorem splitAtChar_pairText (free : '&' ∉ entry.2.toList) :
    Text.splitAtChar '&' (pairText entry) = [pairText entry] :=
  Text.splitAtChar_of_not_mem (by simp [pairText, clear.ampersand, free])

end Pair

/-- Between ampersands stands a whole parameter, or less than a path that has an ampersand. -/
theorem whole_or_shorter {tls : Settings} {pair : List Char}
    (member : pair ∈ Text.splitAtChar '&' tls.parameters.toList) :
    (∃ entry ∈ tls.entries, '&' ∉ entry.2.toList ∧ pair = pairText entry) ∨
      ∃ kind path, tls.path? kind = some path ∧ '&' ∈ path.toList ∧
        byteLength (Properties.cutPair pair).2 < byteLength path.toList := by
  rw [toList_parameters, Text.splitAtChar_intercalate (by simp [entries]), List.flatMap_map] at member
  obtain ⟨entry, inside, member⟩ := List.mem_flatMap.mp member
  have clear := clear_of_mem inside
  by_cases marked : '&' ∈ entry.2.toList
  · obtain rfl | ⟨kind, path, given, rfl⟩ := mem_entries inside
    · exact absurd marked tls.mode.isPlain_serverName.1
    refine .inr ⟨kind, path, given, marked, ?_⟩
    obtain ⟨before, behind, text, free⟩ := List.eq_append_cons_of_mem marked
    have cut : pairText (kind.parameter, path) =
        (kind.parameter.toList ++ '=' :: before) ++ '&' :: behind := by
      simp only [pairText, text, List.append_assoc, List.cons_append]
    rw [cut, Text.splitAtChar_append_cons,
      Text.splitAtChar_of_not_mem (by simp [clear.ampersand, free])] at member
    have ampersand : '&'.utf8Size = 1 := rfl
    rw [text, Properties.byteLength_append, Properties.byteLength_cons, ampersand]
    rcases List.mem_cons.mp member with rfl | later
    · rw [Properties.cutPair, Text.cutAt?_append_cons clear.equals]
      change byteLength before < _
      omega
    · obtain ⟨-, front, back, rfl⟩ := Text.exists_of_mem_splitAtChar later
      have value := Properties.byteLength_cutPair_le pair
      simp only [Properties.byteLength_append]
      omega
  · rw [splitAtChar_pairText clear marked] at member
    exact .inl ⟨entry, inside, marked, List.mem_singleton.mp member⟩

/-! ### What plain parameters are read as -/

/-- The settings as they are read back: `allow` has no name of its own, and whether the server is
verified is left to the mode. -/
def asRead (tls : Settings) : Settings :=
  let mode := if tls.mode = .allow then .prefer else tls.mode
  { tls with mode, verifyServer := mode.verifies }

theorem asRead_eq_self_iff {tls : Settings} :
    tls.asRead = tls ↔ tls.mode ≠ .allow ∧ tls.verifyServer = tls.mode.verifies := by
  obtain ⟨mode, ca, cert, key, verify⟩ := tls
  cases mode <;> cases verify <;> simp [asRead, Mode.verifies]

theorem distinct_entries (tls : Settings) :
    tls.entries.Pairwise fun a b => ¬ Text.SameLetters a.1 b.1 := by
  have distinct : (tls.entries.map Prod.fst).Pairwise fun a b => ¬ Text.SameLetters a b :=
    List.Pairwise.sublist tls.names_sublist (by decide)
  exact List.pairwise_map.mp distinct

theorem ordered_entries (tls : Settings) : (Properties.ofList tls.entries).ordered = tls.entries := by
  have placed : (tls.entries.map Prod.fst).Pairwise fun a b =>
      Properties.appliedBefore (a, "") (b, "") = true :=
    List.Pairwise.sublist tls.names_sublist (by decide)
  exact Properties.ordered_eq (Properties.entries_ofList_perm tls.distinct_entries).symm
    ((List.pairwise_map.mp placed).imp Properties.appliedBefore_iff.mp)

theorem change_mode (tls : Settings) :
    change ("ssl-mode", tls.mode.serverName) = .ok (.tlsMode tls.asRead.mode) := by
  have means : Properties.Meaning.ofName? (Properties.normalize "ssl-mode") = some .sslMode := by
    decide
  rw [Properties.change_of_meaning means, Properties.changeOf, Mode.parse_serverName]
  rfl

/-- The changes that the parameters stand for. -/
theorem changes_entries (tls : Settings) : changes tls.entries = .tlsMode tls.asRead.mode ::
    [PathKind.ca, .clientCert, .clientKey].filterMap fun kind =>
      (tls.path? kind).map (.tlsPath kind) := by
  rw [entries, Properties.changes_cons tls.change_mode, changes, List.filterMap_filterMap]
  refine congrArg _ (List.filterMap_congr fun kind _ => ?_)
  cases tls.path? kind with
  | none => rfl
  | some path => simp [PathKind.change_parameter, Except.toOption]

theorem accepted_entries (tls : Settings) : Properties.Accepted tls.entries := by
  intro entry member
  rcases mem_entries member with rfl | ⟨kind, path, -, rfl⟩
  · rw [change_mode]
    rfl
  · rw [PathKind.change_parameter]
    rfl

theorem applyTo_entries (tls : Settings) {config : Config} (unsecured : config.tls = .disabled) :
    (Properties.ofList tls.entries).applyTo config = .ok { config with tls := tls.asRead } := by
  rw [Properties.applyTo_eq_ok_iff, Properties.Accepted.perm (Properties.entries_ofList_perm
    tls.distinct_entries), ordered_entries, changes_entries]
  refine ⟨tls.accepted_entries, ?_⟩
  rw [Properties.foldl_apply_of_tls, unsecured]
  · obtain ⟨mode, ca, cert, key, verify⟩ := tls
    cases ca <;> cases cert <;> cases key <;> rfl
  · intro made member
    rcases List.mem_cons.mp member with rfl | given
    · rfl
    · obtain ⟨kind, -, given⟩ := List.mem_filterMap.mp given
      obtain ⟨path, -, rfl⟩ := Option.map_eq_some_iff.mp given
      rfl

/-- Parameters whose values a reader leaves as they are come to the reader as they are. -/
theorem parseQuery_parameters {tls : Settings} (plain : ∀ kind path, tls.path? kind = some path →
    '&' ∉ path.toList ∧ IsPlain path) :
    parseQuery tls.parameters = .ok (Properties.ofList tls.entries) := by
  have plain : ∀ entry ∈ tls.entries, '&' ∉ entry.2.toList ∧ IsPlain entry.2 := by
    intro entry member
    rcases mem_entries member with rfl | ⟨kind, path, given, rfl⟩
    · exact tls.mode.isPlain_serverName
    · exact plain kind path given
  have pairs : Properties.pairsOf tls.parameters = tls.entries.map pairText := by
    rw [Properties.pairsOf, toList_parameters, Text.splitAtChar_intercalate (by simp [entries]),
      List.flatMap_map, List.flatMap_congr fun entry member =>
        splitAtChar_pairText (clear_of_mem member) (plain entry member).1, ← List.map_eq_flatMap]
    refine List.filter_eq_self.mpr fun pair member => ?_
    obtain ⟨entry, -, rfl⟩ := List.mem_map.mp member
    simp [pairText]
  refine Properties.parseQuery_eq_ok_iff.mpr ⟨tls.entries, ?_, rfl⟩
  rw [pairs, List.forall₂_map_left_iff, List.forall₂_same]
  intro entry member
  rw [reads_pairText_iff (clear_of_mem member), Properties.decodePart_self_iff]
  exact ⟨rfl, (plain entry member).2⟩

/-! ### Where a path comes from -/

theorem path?_secure {tls : Settings} {made : Properties.Change} {kind : PathKind} {path : String}
    (given : (made.secure tls).path? kind = some path) :
    made = .tlsPath kind path ∨ tls.path? kind = some path := by
  cases made with
  | tlsPath other text =>
    by_cases same : other = kind
    · subst same
      refine .inl (congrArg _ (Option.some.inj (Eq.trans ?_ given)))
      cases other <;> rfl
    · refine .inr (Eq.trans ?_ given)
      cases other <;> cases kind <;> first | rfl | contradiction
  | useTls on =>
    cases on with
    | false => cases kind <;> cases given
    | true =>
      refine .inr (Eq.trans ?_ given)
      simp only [Properties.Change.secure]
      split <;> cases kind <;> rfl
  | requireTls on => exact .inr (by cases on <;> cases kind <;> exact given)
  | tlsMode mode => exact .inr (by cases kind <;> exact given)
  | _ => exact .inr given

theorem path?_foldl_secure {tls : Settings} {made : List Properties.Change} {kind : PathKind}
    {path : String} (given : (made.foldl Properties.Change.secure tls).path? kind = some path) :
    .tlsPath kind path ∈ made ∨ tls.path? kind = some path := by
  induction made generalizing tls with
  | nil => exact .inr given
  | cons change made ih =>
    rcases ih given with later | given
    · exact .inl (List.mem_cons_of_mem _ later)
    · exact (path?_secure given).imp (fun same => by rw [same]; exact List.mem_cons_self) id

section Returning
variable {tls : Settings} {bag : Properties} {config result : Config} {kind : PathKind}
  {path : String} (unsecured : config.tls = .disabled) (read : parseQuery tls.parameters = .ok bag)
  (applied : bag.applyTo config = .ok result) (returns : result.tls = tls)
include unsecured read applied returns

/-- A path that comes back is read from its own parameter as it stands, or fits into a longer path
that has an ampersand. -/
theorem plain_or_shorter (given : tls.path? kind = some path) :
    ('&' ∉ path.toList ∧ IsPlain path) ∨ ∃ other longer, tls.path? other = some longer ∧
      '&' ∈ longer.toList ∧ byteLength path.toList < byteLength longer.toList := by
  obtain ⟨-, rfl⟩ := Properties.applyTo_eq_ok_iff.mp applied
  rw [Properties.tls_foldl_apply, unsecured] at returns
  obtain ⟨entry, inside, stands⟩ := Properties.mem_changes_iff.mp
    ((path?_foldl_secure (returns ▸ given)).resolve_right (by cases kind <;> rintro ⟨⟩))
  obtain ⟨pair, between, reads⟩ := Properties.exists_reads_of_mem read
    (bag.ordered_perm.mem_iff.mp inside)
  rcases whole_or_shorter between with ⟨source, member, free, rfl⟩ | ⟨other, longer, has, marked, short⟩
  · left
    obtain ⟨name, value⟩ := (reads_pairText_iff (clear_of_mem member)).mp reads
    rcases mem_entries member with rfl | ⟨other, text, has, rfl⟩
    · rw [(Properties.decodePart_self_iff _).mpr tls.mode.isPlain_serverName.2] at value
      have same : entry = ("ssl-mode", tls.mode.serverName) := Prod.ext name (Except.ok.inj value).symm
      rw [same, change_mode] at stands
      cases stands
    · rw [show entry = (other.parameter, entry.2) from Prod.ext name rfl,
        PathKind.change_parameter] at stands
      cases stands
      cases given.symm.trans has
      exact ⟨free, (Properties.decodePart_self_iff _).mp value⟩
  · have value := Properties.byteLength_le_of_decodePart reads.2.1
    rw [Properties.snd_eq_of_change stands] at value
    exact .inr ⟨other, longer, has, marked, lt_of_le_of_lt value short⟩

/-- If the settings come back, no path of theirs is read as something else. -/
theorem plain_of_returns (given : tls.path? kind = some path) :
    '&' ∉ path.toList ∧ IsPlain path := by
  by_contra changed
  let Marked (kind : PathKind) (path : String) := tls.path? kind = some path ∧ '&' ∈ path.toList
  have longer {kind : PathKind} {path : String} (has : tls.path? kind = some path)
      (changed : ¬ ('&' ∉ path.toList ∧ IsPlain path)) : ∃ other longer, Marked other longer ∧
        byteLength path.toList < byteLength longer.toList := by
    obtain ⟨other, longer, has, marked, short⟩ :=
      (plain_or_shorter unsecured read applied returns has).resolve_left changed
    exact ⟨other, longer, ⟨has, marked⟩, short⟩
  obtain ⟨first, firstPath, firstMarked, -⟩ := longer given changed
  obtain ⟨most, ⟨path, has, marked⟩, longest⟩ := Set.exists_max_image
    {kind | ∃ path, Marked kind path} (fun kind => byteLength ((tls.path? kind).getD "").toList)
    (Set.toFinite _) ⟨first, firstPath, firstMarked⟩
  obtain ⟨other, beyond, otherMarked, short⟩ := longer has fun plain => plain.1 marked
  have bound := longest other ⟨beyond, otherMarked⟩
  rw [otherMarked.1, has] at bound
  exact absurd short (Nat.not_lt.mpr bound)

end Returning

/-- Settings come back from the parameters they are written as exactly if their mode has a name of
its own, the server is verified as the mode has it, and every path is free of ampersands, plus signs
and escapes. -/
theorem parameters_return_iff (tls : Settings) {config : Config} (unsecured : config.tls = .disabled) :
    (∃ result, (parseQuery tls.parameters >>= fun bag => bag.applyTo config) = .ok result ∧
      result.tls = tls) ↔
    tls.mode ≠ .allow ∧ tls.verifyServer = tls.mode.verifies ∧
      ∀ kind path, tls.path? kind = some path → '&' ∉ path.toList ∧ IsPlain path := by
  constructor
  · rintro ⟨result, run, returns⟩
    obtain ⟨bag, read, applied⟩ := Properties.bind_eq_ok_iff.mp run
    have plain (kind : PathKind) (path : String) (given : tls.path? kind = some path) :=
      plain_of_returns unsecured read applied returns given
    cases read.symm.trans (parseQuery_parameters plain)
    cases (applyTo_entries tls unsecured).symm.trans applied
    obtain ⟨mode, verifies⟩ := asRead_eq_self_iff.mp returns
    exact ⟨mode, verifies, plain⟩
  · rintro ⟨mode, verifies, plain⟩
    refine ⟨{ config with tls := tls.asRead }, ?_, asRead_eq_self_iff.mpr ⟨mode, verifies⟩⟩
    rw [parseQuery_parameters plain]
    exact applyTo_entries tls unsecured

/-- Neither an equals sign nor a percent sign without digits stands in the way. -/
theorem parameters_return_iff_percent :
    let tls : Settings :=
      { mode := .verifyFull, caCert := some "/zertifikate/ca=100 %ä.pem", clientKey := some "key" }
    Config.mysqlDefault.tls = .disabled ∧ ∃ result,
      (parseQuery tls.parameters >>= fun bag => bag.applyTo Config.mysqlDefault) = .ok result ∧
        result.tls = tls := by
  refine ⟨rfl, (parameters_return_iff _ rfl).mpr ⟨by decide, rfl, ?_⟩⟩
  intro kind path given
  cases kind <;> cases given <;> decide

/-- A plus sign in a path is read as a blank. -/
theorem plus_sign_does_not_return :
    let tls : Settings := { mode := .verifyCa, caCert := some "/etc/ssl/c++.pem" }
    tls.mode ≠ .allow ∧ tls.verifyServer = tls.mode.verifies ∧ Config.mysqlDefault.tls = .disabled ∧
      ¬ ∃ result,
        (parseQuery tls.parameters >>= fun bag => bag.applyTo Config.mysqlDefault) = .ok result ∧
          result.tls = tls := by
  refine ⟨by decide, rfl, rfl, ?_⟩
  rintro ⟨result, run, returns⟩
  obtain ⟨bag, read, applied⟩ := Properties.bind_eq_ok_iff.mp run
  have given : path? { mode := .verifyCa, caCert := some "/etc/ssl/c++.pem" } .ca =
      some "/etc/ssl/c++.pem" := rfl
  have plain := plain_of_returns rfl read applied returns given
  revert plain
  decide

end Settings

end SqlProbe.Tls
