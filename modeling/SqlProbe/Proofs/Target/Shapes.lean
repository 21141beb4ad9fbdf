import SqlProbe.Proofs.Target.Bare
import SqlProbe.Proofs.Target.RoundTrip

/-!
# The shapes of a target

The same host, port and database as a bare target, as a URL, and as a URL with `jdbc:` in front of
it. Two readers take them apart, and they agree on everything but slashes behind the database: the
reader of bare targets drops them, and the reader of URLs keeps them as a part of the name.
-/

namespace SqlProbe.Target

open Sql (Digits)

/-! ### Databases and slashes -/

/-- A character of a plain database name. -/
def isNameChar (c : Char) : Bool := c.isAlphanum || c = '-' || c = '_'

theorem isHostChar_of_isNameChar {c : Char} (plain : isNameChar c = true) :
    Url.isHostChar c = true := by
  simp only [isNameChar, Url.isHostChar, Bool.or_eq_true] at plain ⊢
  tauto

theorem isPlainSegment_of_name {segment : List Char} (plain : ∀ c ∈ segment, isNameChar c = true) :
    Url.IsPlainSegment segment := by
  refine Url.isPlainSegment_of_lower fun c member => ?_
  obtain ⟨d, inside, rfl⟩ := List.mem_map.mp member
  have kept := plain d inside
  simp only [isNameChar, Bool.or_eq_true, decide_eq_true_eq] at kept
  rcases kept with (alphanum | rfl) | rfl
  · have alphanum := Url.isAlphanum_toLower alphanum
    constructor <;> intro same <;> rw [same] at alphanum <;> cases alphanum
  · decide
  · decide

/-- A name of a database whose characters stand for themselves. -/
structure IsPlainName (name : String) : Prop where
  nonempty : name ≠ ""
  plain : ∀ c ∈ name.toList, isNameChar c = true

/-- A database behind a host and a port, with slashes behind it. -/
def databaseTail (database : Option String) (slashes : Nat) : List Char :=
  (database.elim [] fun name => '/' :: name.toList) ++ List.replicate slashes '/'

/-- A database with slashes that belong to its name. -/
def withSlashes (database : Option String) (slashes : Nat) : Option String :=
  database.map fun name => name ++ String.ofList (List.replicate slashes '/')

theorem withSlashes_eq_iff {database : Option String} {slashes : Nat} :
    withSlashes database slashes = database ↔ database = none ∨ slashes = 0 := by
  cases database with
  | none => simp [withSlashes]
  | some name =>
    have length : withSlashes (some name) slashes = some name →
        (name ++ String.ofList (List.replicate slashes '/')).toList.length = name.toList.length :=
      fun same => congrArg _ (congrArg _ (Option.some.inj same))
    constructor
    · intro same
      simpa using length same
    · rintro (none | rfl)
      · contradiction
      · simp [withSlashes]

section Database
variable {database : Option String} (named : ∀ name, database = some name → IsPlainName name)
  {slashes : Nat}
include named

theorem mem_databaseTail {c : Char} (member : c ∈ databaseTail database slashes) :
    c = '/' ∨ isNameChar c = true := by
  rcases List.mem_append.mp member with name | slash
  · cases database with
    | none => cases name
    | some text => exact (List.mem_cons.mp name).imp id ((named text rfl).plain c)
  · exact .inl (List.eq_of_mem_replicate slash)

theorem isVisible_of_mem_databaseTail {c : Char} (member : c ∈ databaseTail database slashes) :
    Text.isVisible c = true := by
  rcases mem_databaseTail named member with rfl | plain
  · rfl
  · exact Url.isVisible_of_isHostChar (isHostChar_of_isNameChar plain)

theorem not_mem_databaseTail {c : Char} (other : c ≠ '/') (special : isNameChar c = false) :
    c ∉ databaseTail database slashes := by
  intro member
  rcases mem_databaseTail named member with slash | plain
  · exact other slash
  · exact absurd (plain.symm.trans special) (by decide)

omit named in
/-- A tail is empty or begins with a slash. -/
theorem databaseTail_cases (database : Option String) (slashes : Nat) :
    (databaseTail database slashes = [] ∧ database = none) ∨
      ∃ behind, databaseTail database slashes = '/' :: behind := by
  cases database with
  | some name => exact .inr ⟨_, rfl⟩
  | none =>
    cases slashes with
    | zero => exact .inl ⟨rfl, rfl⟩
    | succ n => exact .inr ⟨_, rfl⟩

omit named in
theorem startsBehind_databaseTail : Url.StartsBehind (databaseTail database slashes) := by
  intro c first
  rcases databaseTail_cases database slashes with ⟨empty, -⟩ | ⟨behind, tail⟩
  · rw [empty] at first
    cases first
  · rw [tail] at first
    exact .inl (Option.some.inj first).symm

/-! ### The bare target -/

omit named in
theorem dropTrailing_append_replicate {c : Char} {cs : List Char} (free : c ∉ cs) (n : Nat) :
    dropTrailing c (cs ++ List.replicate n c) = cs := by
  have inside : ∀ d ∈ cs.reverse, (d == c) = false := fun d member => by
    simpa using ne_of_mem_of_not_mem (List.mem_reverse.mp member) free
  rw [dropTrailing, dropLeading, List.reverse_append, List.reverse_replicate,
    List.dropWhile_append_of_pos fun d member => by simpa using List.eq_of_mem_replicate member,
    Text.dropWhile_of_forall inside, List.reverse_reverse]

/-- The reader of bare targets drops the slashes. -/
theorem databaseNamed_dropTrailing : Config.databaseNamed
    (String.ofList (dropTrailing '/' ((databaseTail database slashes).drop 1))) = database := by
  cases database with
  | none =>
    have tail : (databaseTail none slashes).drop 1 = [] ++ List.replicate (slashes - 1) '/' := by
      simp [databaseTail]
    rw [tail, dropTrailing_append_replicate (by simp)]
    rfl
  | some name =>
    obtain ⟨nonempty, plain⟩ := named name rfl
    have free : '/' ∉ name.toList := fun member => absurd (plain '/' member) (by decide)
    have tail : (databaseTail (some name) slashes).drop 1 =
        name.toList ++ List.replicate slashes '/' := rfl
    rw [tail, dropTrailing_append_replicate free, String.ofList_toList]
    exact if_neg nonempty

omit named in
theorem cutAt?_databaseTail {authority : List Char} (free : '/' ∉ authority) :
    (Text.cutAt? '/' (authority ++ databaseTail database slashes)).getD
        (authority ++ databaseTail database slashes, []) =
      (authority, (databaseTail database slashes).drop 1) := by
  rcases databaseTail_cases database slashes with ⟨empty, -⟩ | ⟨behind, tail⟩
  · rw [empty, List.append_nil, Text.cutAt?_eq_none free]
    rfl
  · rw [tail, Text.cutAt?_append_cons free]
    rfl

omit named in
/-- Without brackets the port is behind the last colon. -/
theorem cutAuthority_of_bare (text authority : List Char) (bare : ∀ rest, authority ≠ '[' :: rest) :
    cutAuthority text authority =
      match Text.cutAtLast? ':' authority with
      | some (host, port) => .ok (host, some port)
      | none => .ok (authority, none) := by
  unfold cutAuthority
  split
  · next rest => exact absurd rfl (bare rest)
  · rfl

section Bare
variable {host : String} {port : Option UInt16} {number : List Char}
  (plain : Url.IsPlainHost host.toList) (numbered : Url.WritesPort port number)
include plain numbered

omit named in
theorem readPort_cutAuthority (text : List Char) : ∃ digits,
    cutAuthority text (host.toList ++ number) = .ok (host.toList, digits) ∧
      readPort text digits = .ok (port.getD defaultPort) := by
  have colon := plain.not_mem (by decide : Url.isHostChar ':' = false)
  obtain ⟨c, cs, same⟩ := List.exists_cons_of_ne_nil plain.nonempty
  have bracket : c ≠ '[' := by
    rintro rfl
    exact plain.not_mem (by decide : Url.isHostChar '[' = false) (same ▸ List.mem_cons_self)
  have cut := cutAuthority_of_bare text (host.toList ++ number) fun rest opened => by
    rw [same] at opened
    exact bracket (List.cons.inj opened).1
  cases numbered with
  | none =>
    refine ⟨none, ?_, rfl⟩
    rw [cut, List.append_nil, Text.cutAtLast?_eq_none colon]
  | @some ds digits bounded =>
    have free : ':' ∉ ds := fun member => absurd (digits.digits ':' member) (by decide)
    refine ⟨some ds, ?_, ?_⟩
    · rw [cut, Text.cutAtLast?_append_cons _ free]
    · rw [readPort, Text.natural?_of_digits digits bounded]
      rfl

theorem parseBare_eq : parseBare (host.toList ++ (number ++ databaseTail database slashes)) = .ok {
    Config.mysqlDefault with host, port := port.getD defaultPort, database } := by
  have free : '/' ∉ host.toList ++ number := by
    refine mt List.mem_append.mp (not_or.mpr ⟨plain.not_mem (by decide), fun member => ?_⟩)
    rcases numbered.eq_or_isDigit member with same | digit
    · exact absurd same (by decide)
    · exact absurd digit (by decide)
  have ok_bind {α β : Type} (a : α) (next : α → Except Error β) : Except.ok a >>= next = next a := rfl
  obtain ⟨digits, cut, read⟩ := readPort_cutAuthority plain numbered
    (host.toList ++ number ++ databaseTail database slashes)
  rw [← List.append_assoc, parseBare, cutAt?_databaseTail free]
  dsimp only
  rw [cut, ok_bind]
  dsimp only
  rw [if_neg plain.nonempty, read, ok_bind, databaseNamed_dropTrailing named, String.ofList_toList]
  rfl

theorem isVisible_of_mem_text {c : Char}
    (member : c ∈ host.toList ++ (number ++ databaseTail database slashes)) :
    Text.isVisible c = true := by
  simp only [List.mem_append] at member
  rcases member with inside | digit | tail
  · exact Url.isVisible_of_isHostChar (plain.plain c inside)
  · rcases numbered.eq_or_isDigit digit with rfl | digit
    · rfl
    · exact Text.isVisible_of_isAlphanum (by simp [Char.isAlphanum, digit])
  · exact isVisible_of_mem_databaseTail named tail

/-- The only colon has a digit behind it. -/
theorem hasAuthorityMark_text :
    hasAuthorityMark (host.toList ++ (number ++ databaseTail database slashes)) = false := by
  have colon := plain.not_mem (by decide : Url.isHostChar ':' = false)
  have tail : ':' ∉ databaseTail database slashes :=
    not_mem_databaseTail named (by decide) (by decide)
  rw [hasAuthorityMark_append colon]
  cases numbered with
  | none =>
    rw [List.nil_append]
    exact hasAuthorityMark_of_not_mem tail
  | @some ds digits bounded =>
    obtain ⟨d, rest, rfl⟩ := List.exists_cons_of_ne_nil digits.nonempty
    have slash : d ≠ '/' := Sql.ne_of_isDigit (digits.digits d List.mem_cons_self) (by decide)
    have free : ':' ∉ d :: rest := fun member => absurd (digits.digits ':' member) (by decide)
    have next : hasAuthorityMark (':' :: (d :: (rest ++ databaseTail database slashes))) =
        hasAuthorityMark (d :: rest ++ databaseTail database slashes) := by
      rw [hasAuthorityMark.eq_2 _ _ fun behind _ same => slash (List.cons.inj same).1]
      rfl
    exact next.trans (hasAuthorityMark_of_not_mem (mt List.mem_append.mp (not_or.mpr ⟨free, tail⟩)))

theorem parse_bareText :
    parse (String.ofList (host.toList ++ (number ++ databaseTail database slashes))) = .ok {
      Config.mysqlDefault with host, port := port.getD defaultPort, database } := by
  have some := List.append_ne_nil_of_left_ne_nil plain.nonempty
    (number ++ databaseTail database slashes)
  rw [parse, String.toList_ofList,
    Text.trim_of_visible fun c => isVisible_of_mem_text named plain numbered]
  dsimp only
  rw [if_neg some, hasAuthorityMark_of_inside (dropJdbc_suffix _).isInfix
    (hasAuthorityMark_text named plain numbered), if_neg Bool.false_ne_true]
  exact parseBare_eq named plain numbered

end Bare

/-! ### The URL -/

/-- The reader of URLs keeps the slashes behind a name. -/
theorem decodePart_databaseTail :
    ∃ name, decodePart (dropLeading '/' (databaseTail database slashes)) = .ok name ∧
      Config.databaseNamed name = withSlashes database slashes := by
  cases database with
  | none =>
    have nothing : dropLeading '/' (databaseTail none slashes) = [] := by
      simp [dropLeading, databaseTail]
    exact ⟨"", by rw [nothing]; exact decodePart_nil, rfl⟩
  | some name =>
    obtain ⟨nonempty, plain⟩ := named name rfl
    obtain ⟨c, cs, same⟩ := List.exists_cons_of_ne_nil (mt String.toList_eq_nil_iff.mp nonempty)
    have slash : c ≠ '/' := by
      rintro rfl
      exact absurd (plain '/' (same ▸ List.mem_cons_self)) (by decide)
    have left : dropLeading '/' (databaseTail (some name) slashes) =
        name.toList ++ List.replicate slashes '/' := by
      change ('/' :: (name.toList ++ List.replicate slashes '/')).dropWhile (· == '/') = _
      rw [List.dropWhile_cons_of_pos (by decide), same, List.cons_append,
        List.dropWhile_cons_of_neg (by simpa using slash)]
    have plain : ∀ c ∈ name.toList ++ List.replicate slashes '/',
        Text.isVisible c = true ∧ c ≠ '%' := by
      intro c member
      have inside : c ∈ databaseTail (some name) slashes := List.mem_cons_of_mem _ member
      exact ⟨isVisible_of_mem_databaseTail named inside, fun percent =>
        not_mem_databaseTail named (percent ▸ by decide) (percent ▸ by decide) inside⟩
    refine ⟨_, (congrArg decodePart left).trans (decodePart_of_plain plain), ?_⟩
    rw [withSlashes, Option.map_some, Config.databaseNamed, if_neg]
    · simp
    · intro empty
      have empty := congrArg String.toList empty
      rw [String.toList_ofList, same] at empty
      cases empty

theorem pathOf_databaseTail :
    Url.pathOf .other (databaseTail database slashes) = databaseTail database slashes := by
  rcases databaseTail_cases database slashes with ⟨empty, -⟩ | ⟨behind, tail⟩
  · rw [empty]
    rfl
  · rw [tail]
    refine Url.pathOf_of_plain fun segment member => isPlainSegment_of_name fun c inside => ?_
    obtain ⟨free, before, rest, whole⟩ := Text.exists_of_mem_splitAtChar member
    have member : c ∈ databaseTail database slashes := by
      rw [tail, whole]
      simp [inside]
    exact (mem_databaseTail named member).resolve_left (ne_of_mem_of_not_mem inside free)

section Url
variable {host : String} {port : Option UInt16} {number : List Char}
  (plain : Url.IsPlainHost host.toList) (numbered : Url.WritesPort port number)
include plain numbered

theorem parse_urlText :
    parse (String.ofList (mark ++ (host.toList ++ (number ++ databaseTail database slashes)))) =
      .ok { Config.mysqlDefault with
        host, port := port.getD defaultPort, database := withSlashes database slashes } := by
  have free : ∀ c ∈ databaseTail database slashes, c ≠ '?' ∧ c ≠ '#' := by
    intro c member
    constructor <;> rintro rfl
    · exact not_mem_databaseTail named (by decide) (by decide) member
    · exact not_mem_databaseTail named (by decide) (by decide) member
  have path : Url.pathAndQuery .other (databaseTail database slashes) =
      (databaseTail database slashes, none) := by
    have both : Url.pathAndQuery .other (databaseTail database slashes ++ Url.queryText none) =
        (Url.pathOf .other (databaseTail database slashes), none) :=
      Url.pathAndQuery_append free (by simp)
    rwa [Url.queryText, List.append_nil, pathOf_databaseTail named] at both
  have starts : Url.StartsBehind (databaseTail database slashes) := startsBehind_databaseTail
  have other : Url.kindOf ['m', 'y', 's', 'q', 'l'] = .other := rfl
  have nobody : ∀ c ∈ ([] : List Char), Url.SchemeKind.other.endsAuthority c = false := by simp
  have read := Url.parseAuthority_eq other nobody plain numbered starts
  rw [path] at read
  have ok_bind {α β : Type} (a : α) (next : α → Except Error β) : Except.ok a >>= next = next a := rfl
  obtain ⟨name, decoded, same⟩ :
      ∃ name, decodePart (dropLeading '/' (databaseTail database slashes)) = .ok name ∧
        Config.databaseNamed name = withSlashes database slashes := decodePart_databaseTail named
  rw [parse_mark (fun c => isVisible_of_mem_text named plain numbered) read, ofUrl,
    if_neg fun other => other rfl]
  dsimp only
  rw [urlHost?_of_plain plain rfl]
  dsimp only
  rw [decoded]
  change Except.ok _ = _
  rw [same]
  rfl

end Url

end Database

/-! ### The three shapes -/

/-- What stands in front of a URL that names its driver's interface. -/
abbrev jdbcMark : List Char := ['j', 'd', 'b', 'c', ':']

/-- In front of a URL `jdbc:` is nothing. -/
theorem parse_jdbcMark (rest : List Char) :
    parse (String.ofList (jdbcMark ++ (mark ++ rest))) = parse (String.ofList (mark ++ rest)) := by
  have front : ∀ c ∈ jdbcMark ++ mark, Text.isVisible c = true := List.all_eq_true.mp (by decide)
  have visible : ∀ c ∈ mark, Text.isVisible c = true := List.all_eq_true.mp (by decide)
  rw [parse, parse, String.toList_ofList, String.toList_ofList, ← List.append_assoc,
    Text.trim_append (by decide) front, Text.trim_append (by decide) visible]
  rfl

/-- A host, a port and a database are accepted in all three shapes. With and without `jdbc:` the URL
is the same configuration, and that of the bare target is the same exactly if no slash stands behind
a database; a URL takes such slashes for a part of its name. -/
theorem parse_shapes {host : String} {port : Option UInt16} {number : List Char}
    (plain : Url.IsPlainHost host.toList) (numbered : Url.WritesPort port number)
    {database : Option String} (named : ∀ name, database = some name → IsPlainName name)
    (slashes : Nat) :
    let text := host.toList ++ (number ++ databaseTail database slashes)
    let config := { Config.mysqlDefault with host, port := port.getD defaultPort, database }
    let slashed := { config with database := withSlashes database slashes }
    parse (String.ofList text) = .ok config ∧ parse (String.ofList (mark ++ text)) = .ok slashed ∧
      parse (String.ofList (jdbcMark ++ (mark ++ text))) = .ok slashed ∧
      (slashed = config ↔ database = none ∨ slashes = 0) := by
  intro text config slashed
  have url : parse (String.ofList (mark ++ text)) = .ok slashed := parse_urlText named plain numbered
  refine ⟨parse_bareText named plain numbered, url, (parse_jdbcMark text).trans url, ?_⟩
  rw [← withSlashes_eq_iff]
  exact ⟨congrArg Config.database, fun same => congrArg (fun d => { config with database := d }) same⟩

/-- All characters that a host and a name may have, zeros in front of a port, and slashes. -/
theorem parse_shapes_zeros :
    let host := "Db-1.example_net"
    let database := some "Test_db-1"
    let text := host.toList ++ (":0003310".toList ++ databaseTail database 2)
    let config := { Config.mysqlDefault with host, port := 3310, database }
    let slashed := { config with database := some "Test_db-1//" }
    (Url.IsPlainHost host.toList ∧ Url.WritesPort (some 3310) ":0003310".toList ∧
      ∀ name, database = some name → IsPlainName name) ∧
    parse (String.ofList text) = .ok config ∧ parse (String.ofList (mark ++ text)) = .ok slashed ∧
      parse (String.ofList (jdbcMark ++ (mark ++ text))) = .ok slashed := by
  intro host database text config slashed
  have plain : Url.IsPlainHost host.toList := ⟨by decide, List.all_eq_true.mp (by decide)⟩
  have digits : Digits "0003310".toList := ⟨by decide, List.all_eq_true.mp (by decide)⟩
  have numbered : Url.WritesPort (some 3310) ":0003310".toList := .some digits (by decide)
  have named : ∀ name, database = some name → IsPlainName name := fun name same => by
    obtain rfl : "Test_db-1" = name := Option.some.inj same
    exact ⟨by decide, List.all_eq_true.mp (by decide)⟩
  obtain ⟨bare, url, jdbc, -⟩ := parse_shapes plain numbered named 2
  exact ⟨⟨plain, numbered, named⟩, bare, url, jdbc⟩

/-- A slash behind the database of a URL ends up in its name. -/
theorem slash_behind_database_is_kept :
    ¬ ∀ (host : String) (port : Option UInt16) (number : List Char) (database : Option String)
      (slashes : Nat), Url.IsPlainHost host.toList → Url.WritesPort port number →
      (∀ name, database = some name → IsPlainName name) →
      let text := host.toList ++ (number ++ databaseTail database slashes)
      ∃ config, parse (String.ofList text) = .ok config ∧
        parse (String.ofList (mark ++ text)) = .ok config ∧
        parse (String.ofList (jdbcMark ++ (mark ++ text))) = .ok config := by
  intro agree
  have plain : Url.IsPlainHost "localhost".toList := ⟨by decide, List.all_eq_true.mp (by decide)⟩
  have digits : Digits "3307".toList := ⟨by decide, List.all_eq_true.mp (by decide)⟩
  have numbered : Url.WritesPort (some 3307) ":3307".toList := .some digits (by decide)
  have named : ∀ name, some "test" = some name → IsPlainName name := by
    rintro name ⟨⟩
    exact ⟨by decide, List.all_eq_true.mp (by decide)⟩
  obtain ⟨config, bare, url, -⟩ := agree _ _ _ _ 1 plain numbered named
  rw [parse_bareText named plain numbered] at bare
  rw [parse_urlText named plain numbered, ← bare] at url
  exact absurd (congrArg Config.database (Except.ok.inj url)) (by decide)

end SqlProbe.Target
