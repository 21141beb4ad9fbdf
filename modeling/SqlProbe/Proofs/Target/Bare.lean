import SqlProbe.Proofs.Properties.Query
import SqlProbe.Proofs.Text.Cut
import SqlProbe.Proofs.Text.Numeral
import SqlProbe.Target.Parse

/-!
# Bare targets

A target that is no URL is a host, which may stand between brackets, then a port, then a database.
What the reader makes of these parts flattens back to the text. One text is lost: what stands behind
a closing bracket and begins with neither a colon nor a slash belongs to no part.
-/

namespace SqlProbe.Target

open Sql (Digits)

/-! ### The parts of a text -/

/-- A host, with or without brackets. -/
inductive HostText (host : String) : List Char → Prop
  | plain : HostText host host.toList
  | brackets : HostText host ('[' :: (host.toList ++ [']']))

/-- A port behind a host: nothing for the default one, or a colon and the digits of a number, which
may have a plus sign in front of them. -/
inductive PortText (port : UInt16) : List Char → Prop
  | default (same : port = defaultPort) : PortText port []
  | number {sign ds : List Char} (signs : sign = [] ∨ sign = ['+']) (digits : Digits ds)
      (value : Nat.ofDigitChars 10 ds 0 = port.toNat) : PortText port (':' :: (sign ++ ds))

/-- A database behind a port: nothing, or a slash, its name and any number of slashes. Where there
is no name there is no database. -/
inductive DatabaseText : Option String → List Char → Prop
  | none : DatabaseText none []
  | slashes (n : Nat) : DatabaseText none ('/' :: List.replicate n '/')
  | some (name : String) (n : Nat) :
      DatabaseText (some name) ('/' :: (name.toList ++ List.replicate n '/'))

/-- A text that is the host, the port and the database of a configuration, and nothing else. -/
def IsWhole (text : List Char) (config : Config) : Prop :=
  ∃ host port database, text = host ++ (port ++ database) ∧ HostText config.host host ∧
    PortText config.port port ∧ DatabaseText config.database database

/-- A text in which neither a colon nor a slash comes behind the closing bracket of the host. -/
def HasStray (text : List Char) : Prop :=
  ∃ host c behind, text = '[' :: (host ++ ']' :: c :: behind) ∧ ']' ∉ host ∧ c ≠ ':' ∧ c ≠ '/'

/-! ### Marks -/

theorem hasAuthorityMark_iff {cs : List Char} :
    hasAuthorityMark cs = true ↔ [':', '/', '/'] <:+: cs := by
  fun_induction hasAuthorityMark cs with
  | case1 rest => exact iff_of_true rfl (List.IsPrefix.isInfix ⟨rest, rfl⟩)
  | case2 c rest other ih =>
    rw [ih, List.infix_cons_iff]
    refine ⟨.inr, fun either => either.resolve_left ?_⟩
    rintro ⟨behind, same⟩
    obtain ⟨rfl, rfl⟩ := List.cons.inj same
    exact other behind rfl rfl
  | case3 => simp

theorem hasAuthorityMark_of_inside {cs text : List Char} (inside : cs <:+: text)
    (bare : hasAuthorityMark text = false) : hasAuthorityMark cs = false := by
  rw [← Bool.not_eq_true, hasAuthorityMark_iff] at bare ⊢
  exact fun mark => bare (mark.trans inside)

theorem hasAuthorityMark_append {as : List Char} (free : ':' ∉ as) (bs : List Char) :
    hasAuthorityMark (as ++ bs) = hasAuthorityMark bs := by
  induction as with
  | nil => rfl
  | cons a as ih =>
    obtain ⟨other, free⟩ := not_or.mp (mt List.mem_cons.mpr free)
    rw [List.cons_append, hasAuthorityMark.eq_2 _ _ fun _ same => absurd same.symm other, ih free]

theorem hasAuthorityMark_of_not_mem {cs : List Char} (free : ':' ∉ cs) :
    hasAuthorityMark cs = false := by
  have same := hasAuthorityMark_append free []
  rwa [List.append_nil] at same

theorem inside_trim (cs : List Char) : Text.trim cs <:+: cs := by
  have start : Text.trimStart cs <:+: cs := (List.dropWhile_suffix _).isInfix
  refine List.IsInfix.trans (List.IsPrefix.isInfix ?_) start
  rw [← List.reverse_suffix, Text.trim, Text.trimEnd, List.reverse_reverse]
  exact List.dropWhile_suffix _

theorem dropJdbc_suffix (cs : List Char) : dropJdbc cs <:+ cs := by
  unfold dropJdbc
  split
  · next rest => exact ⟨['j', 'd', 'b', 'c', ':'], rfl⟩
  · exact List.suffix_refl cs

/-- A text without the mark of a URL is read as a bare target. -/
theorem parse_of_bare {target : String} (bare : hasAuthorityMark target.toList = false)
    {config : Config} (accepted : parse target = .ok config) :
    parseBare (Text.trim target.toList) = .ok config := by
  have inside := (dropJdbc_suffix (Text.trim target.toList)).isInfix.trans (inside_trim _)
  rw [parse] at accepted
  split at accepted
  · contradiction
  · rwa [hasAuthorityMark_of_inside inside bare, if_neg Bool.false_ne_true] at accepted

/-! ### Reading the parts -/

theorem append_dropTrailing (c : Char) (cs : List Char) :
    ∃ n, cs = dropTrailing c cs ++ List.replicate n c := by
  have same : cs.reverse.takeWhile (· == c) =
      List.replicate (cs.reverse.takeWhile (· == c)).length c :=
    List.eq_replicate_iff.mpr ⟨rfl, fun d member => by simpa using List.mem_takeWhile_imp member⟩
  refine ⟨(cs.reverse.takeWhile (· == c)).length, ?_⟩
  rw [dropTrailing, dropLeading, ← List.reverse_replicate, ← same, ← List.reverse_append,
    List.takeWhile_append_dropWhile, List.reverse_reverse]

theorem databaseText_behind (behind : List Char) :
    DatabaseText (Config.databaseNamed (String.ofList (dropTrailing '/' behind))) ('/' :: behind) := by
  obtain ⟨n, same⟩ := append_dropTrailing '/' behind
  generalize dropTrailing '/' behind = name at same
  subst same
  rw [Config.databaseNamed]
  split
  · next empty =>
    obtain rfl : name = [] := by simpa using congrArg String.toList empty
    exact .slashes n
  · simpa using DatabaseText.some (String.ofList name) n

/-- A port that is read. -/
theorem portText_of_readPort {text : List Char} {port : Option (List Char)} {number : UInt16}
    (read : readPort text port = .ok number) :
    PortText number (port.elim [] fun cs => ':' :: cs) := by
  cases port with
  | none => exact .default (Except.ok.inj read).symm
  | some cs =>
    rw [readPort] at read
    split at read
    · next n natural =>
      obtain ⟨sign, ds, rfl, signs, digits, value, bounded⟩ := Text.natural?_eq_some natural
      cases read
      refine .number signs digits ?_
      rw [value, Nat.toUInt16, UInt16.toNat_ofNat', Nat.mod_eq_of_lt (by omega)]
    · contradiction

/-- What an authority is cut into: the host, what stands behind its brackets for nothing, and the
port. -/
inductive AuthorityCut : List Char → List Char → List Char → Option (List Char) → Prop
  | plain {authority host : List Char} {port : Option (List Char)}
      (unbracketed : authority.head? ≠ some '[')
      (parts : authority = host ++ port.elim [] fun cs => ':' :: cs) :
      AuthorityCut authority host [] port
  | brackets {host stray : List Char} {port : Option (List Char)} (closed : ']' ∉ host)
      (either : stray = [] ∨ port = none) (other : stray.head? ≠ some ':') :
      AuthorityCut ('[' :: (host ++ ']' :: (stray ++ port.elim [] fun cs => ':' :: cs))) host stray
        port

theorem authorityCut_of_ok {text authority host : List Char} {port : Option (List Char)}
    (cut : cutAuthority text authority = .ok (host, port)) :
    ∃ stray, AuthorityCut authority host stray port := by
  unfold cutAuthority at cut
  split at cut
  · next rest =>
    split at cut
    · next inner number found =>
      cases cut
      have cut := @AuthorityCut.brackets host [] (some number) (Text.not_mem_of_cutAt? found)
        (.inl rfl) (by simp)
      exact ⟨[], Text.eq_append_of_cutAt? found ▸ cut⟩
    · next inner stray other found =>
      cases cut
      have first : stray.head? ≠ some ':' := by
        cases stray with
        | nil => simp
        | cons c stray =>
          rintro ⟨⟩
          exact other stray rfl
      have cut := @AuthorityCut.brackets host stray none (Text.not_mem_of_cutAt? found) (.inr rfl) first
      rw [Option.elim_none, List.append_nil] at cut
      exact ⟨stray, Text.eq_append_of_cutAt? found ▸ cut⟩
    · contradiction
  · next unbracketed =>
    have unbracketed : authority.head? ≠ some '[' := by
      cases authority with
      | nil => simp
      | cons c rest =>
        rintro ⟨⟩
        exact unbracketed rest rfl
    split at cut
    · next before number found =>
      cases cut
      exact ⟨[], .plain unbracketed (Text.eq_append_of_cutAtLast? found)⟩
    · cases cut
      exact ⟨[], .plain unbracketed (List.append_nil _).symm⟩

/-- The parts of a bare target that is accepted. -/
structure BareParts (text : List Char) (config : Config) (authority host stray : List Char)
    (port : Option (List Char)) (database : List Char) : Prop where
  whole : text = authority ++ database
  /-- The first slash ends the authority. -/
  free : '/' ∉ authority
  cut : AuthorityCut authority host stray port
  named : host ≠ [] ∧ host = config.host.toList
  numbered : PortText config.port (port.elim [] fun cs => ':' :: cs)
  kept : DatabaseText config.database database

theorem bareParts_of_parseBare {text : List Char} {config : Config}
    (accepted : parseBare text = .ok config) :
    ∃ authority host stray port database,
      BareParts text config authority host stray port database := by
  have first : ∃ authority behind database, (Text.cutAt? '/' text).getD (text, []) =
      (authority, behind) ∧ text = authority ++ database ∧ '/' ∉ authority ∧ DatabaseText
        (Config.databaseNamed (String.ofList (dropTrailing '/' behind))) database := by
    cases found : Text.cutAt? '/' text with
    | none =>
      exact ⟨text, [], [], rfl, (List.append_nil _).symm, Text.not_mem_of_cutAt?_eq_none found, .none⟩
    | some parts =>
      exact ⟨parts.1, parts.2, '/' :: parts.2, rfl, Text.eq_append_of_cutAt? found,
        Text.not_mem_of_cutAt? found, databaseText_behind parts.2⟩
  obtain ⟨authority, behind, database, slash, whole, free, kept⟩ := first
  rw [parseBare, slash] at accepted
  dsimp only at accepted
  obtain ⟨⟨host, port⟩, cut, accepted⟩ := Properties.bind_eq_ok_iff.mp accepted
  dsimp only at accepted
  split at accepted
  · cases accepted
  · next nonempty =>
    obtain ⟨number, read, same⟩ := Properties.bind_eq_ok_iff.mp accepted
    cases same
    obtain ⟨stray, cut⟩ := authorityCut_of_ok cut
    exact ⟨authority, host, stray, port, database, whole, free, cut,
      ⟨nonempty, String.toList_ofList.symm⟩, portText_of_readPort read, kept⟩

/-! ### What is lost -/

/-- The first closing bracket is where it is. -/
theorem eq_of_closed {host other rest behind : List Char} (closed : ']' ∉ host)
    (closed' : ']' ∉ other) (same : host ++ ']' :: rest = other ++ ']' :: behind) :
    host = other ∧ rest = behind := by
  have cut := Text.cutAt?_append_cons closed rest
  rw [same, Text.cutAt?_append_cons closed'] at cut
  obtain ⟨rfl, rfl⟩ := Prod.mk.inj (Option.some.inj cut)
  exact ⟨rfl, rfl⟩

/-- What a bracket shifts by one begins with it again. -/
theorem eq_cons_of_shifted {host rest behind : List Char}
    (same : host ++ rest = '[' :: (host ++ behind)) : rest = '[' :: behind := by
  induction host with
  | nil => exact same
  | cons c host ih =>
    obtain ⟨rfl, same⟩ := List.cons.inj same
    exact ih same

theorem head?_behind {port : UInt16} {database : Option String} {number name : List Char}
    (numbered : PortText port number) (kept : DatabaseText database name) :
    ∀ c ∈ (number ++ name).head?, c = ':' ∨ c = '/' := by
  intro c first
  cases numbered with
  | number => exact .inl (Option.some.inj first).symm
  | default =>
    cases kept with
    | none => cases first
    | slashes => exact .inr (Option.some.inj first).symm
    | some => exact .inr (Option.some.inj first).symm

/-- What begins with neither a colon nor a slash is neither a port nor a database. -/
theorem not_isWhole_of_stray {config : Config} {c : Char} {behind : List Char} (colon : c ≠ ':')
    (slash : c ≠ '/') :
    ¬ IsWhole ('[' :: (config.host.toList ++ ']' :: c :: behind)) config := by
  rintro ⟨host, number, name, whole, hosted, numbered, kept⟩
  have first := head?_behind numbered kept
  cases hosted with
  | plain =>
    rw [eq_cons_of_shifted whole.symm] at first
    exact absurd (first '[' rfl) (by decide)
  | brackets =>
    have rest : c :: behind = number ++ name := by simpa using whole
    rw [← rest] at first
    exact (first c rfl).elim colon slash

namespace BareParts

variable {text authority host stray database : List Char} {config : Config}
  {port : Option (List Char)} (parts : BareParts text config authority host stray port database)
include parts

theorem isWhole (nothing : stray = []) : IsWhole text config := by
  obtain ⟨rfl, -, cut, ⟨-, rfl⟩, numbered, kept⟩ := parts
  cases cut with
  | plain unbracketed whole => exact ⟨_, _, _, by rw [whole, List.append_assoc], .plain, numbered, kept⟩
  | brackets closed =>
    subst nothing
    exact ⟨_, _, _, by simp, .brackets, numbered, kept⟩

theorem not_hasStray (nothing : stray = []) : ¬ HasStray text := by
  rintro ⟨other, c, behind, same, closed', colon, slash⟩
  have first := head?_behind parts.numbered parts.kept
  obtain ⟨rfl, -, cut, ⟨nonempty, -⟩, -, -⟩ := parts
  cases cut with
  | plain unbracketed whole =>
    obtain ⟨d, rest, rfl⟩ := List.exists_cons_of_ne_nil nonempty
    rw [whole] at same unbracketed
    exact unbracketed (congrArg some (List.cons.inj same).1)
  | brackets closed =>
    subst nothing
    have same : host ++ ']' :: ((port.elim [] fun cs => ':' :: cs) ++ database) =
        other ++ ']' :: c :: behind := by simpa using same
    rw [(eq_of_closed closed closed' same).2] at first
    exact (first c rfl).elim colon slash

theorem of_stray (something : stray ≠ []) : HasStray text ∧ ¬ IsWhole text config ∧
    text = '[' :: (config.host.toList ++ ']' :: (stray ++ database)) ∧
      config.port = defaultPort := by
  obtain ⟨rfl, free, cut, ⟨-, rfl⟩, numbered, -⟩ := parts
  cases cut with
  | plain => contradiction
  | brackets closed either other =>
    obtain ⟨c, rest, rfl⟩ := List.exists_cons_of_ne_nil something
    obtain rfl := either.resolve_left something
    have colon : c ≠ ':' := fun same => other (congrArg some same)
    have slash : c ≠ '/' := by
      rintro rfl
      simp at free
    have default : config.port = defaultPort := by
      cases numbered
      assumption
    have whole : '[' :: (config.host.toList ++ ']' :: (c :: rest ++ [])) ++ database =
        '[' :: (config.host.toList ++ ']' :: c :: (rest ++ database)) := by simp
    refine ⟨⟨_, c, _, whole, closed, colon, slash⟩, ?_, whole, default⟩
    change ¬ IsWhole ('[' :: (config.host.toList ++ ']' :: (c :: rest ++ [])) ++ database) config
    rw [whole]
    exact not_isWhole_of_stray colon slash

end BareParts

/-- A bare target that is accepted is the host, the port and the database of its configuration and
nothing else, unless something other than a port stands behind a closing bracket. That is left out,
and the port is the default one. -/
theorem parse_bare {target : String} {config : Config}
    (bare : hasAuthorityMark target.toList = false) (accepted : parse target = .ok config) :
    (¬ HasStray (Text.trim target.toList) → IsWhole (Text.trim target.toList) config) ∧
      (HasStray (Text.trim target.toList) → ¬ IsWhole (Text.trim target.toList) config ∧
        config.port = defaultPort ∧ ∃ stray database, stray ≠ [] ∧
          Text.trim target.toList = '[' :: (config.host.toList ++ ']' :: (stray ++ database)) ∧
          DatabaseText config.database database) := by
  obtain ⟨authority, host, stray, port, database, parts⟩ :=
    bareParts_of_parseBare (parse_of_bare bare accepted)
  by_cases nothing : stray = []
  · exact ⟨fun _ => parts.isWhole nothing, fun present => absurd present (parts.not_hasStray nothing)⟩
  · obtain ⟨present, lost, whole, default⟩ := parts.of_stray nothing
    exact ⟨fun absent => absurd present absent,
      fun _ => ⟨lost, default, stray, database, nothing, whole, parts.kept⟩⟩

/-- An address between brackets, a port with a sign and zeros, and slashes behind the database. -/
theorem parse_bare_address :
    let target := " [fe80::1]:+03310/shop//"
    let config := { Config.mysqlDefault with
      host := "fe80::1", port := 3310, database := some "shop" }
    hasAuthorityMark target.toList = false ∧ parse target = .ok config ∧
      ¬ HasStray (Text.trim target.toList) ∧ IsWhole (Text.trim target.toList) config := by
  intro target config
  have bare : hasAuthorityMark target.toList = false := by decide
  have accepted : parse target = .ok config := by decide
  have absent : ¬ HasStray (Text.trim target.toList) := by
    rintro ⟨host, c, behind, same, closed, colon, -⟩
    have read : Text.trim target.toList =
        '[' :: ("fe80::1".toList ++ ']' :: ":+03310/shop//".toList) := by decide
    have whole := (List.cons.inj (read.symm.trans same)).2
    have rest := (eq_of_closed (by decide) closed whole).2
    exact colon (List.cons.inj rest).1.symm
  exact ⟨bare, accepted, absent, (parse_bare bare accepted).1 absent⟩

/-- A port without its colon behind a closing bracket is lost. -/
theorem port_behind_bracket_is_lost :
    ¬ ∀ (target : String) (config : Config), hasAuthorityMark target.toList = false →
      parse target = .ok config → IsWhole (Text.trim target.toList) config := by
  intro whole
  let config := { Config.mysqlDefault with host := "::1", port := 3307, database := some "test" }
  have accepted : parse "[::1]3310/test" = .ok config := by decide
  have read : Text.trim "[::1]3310/test".toList =
      '[' :: ("::1".toList ++ ']' :: '3' :: "310/test".toList) := by decide
  have lost : ¬ IsWhole ('[' :: (config.host.toList ++ ']' :: '3' :: "310/test".toList)) config :=
    not_isWhole_of_stray (by decide) (by decide)
  exact lost (read ▸ whole _ _ (by decide) accepted)

end SqlProbe.Target
