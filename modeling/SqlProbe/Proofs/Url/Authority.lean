import SqlProbe.Proofs.Sql.Numerals
import SqlProbe.Proofs.Text.Cut
import SqlProbe.Proofs.Text.Visible
import SqlProbe.Url.Parse

/-!
# Reading authorities

What stands between the two slashes and the path comes apart as it was put together: the user
information up to the last at sign, then the host, then a colon and the port. A host of letters,
digits, points, hyphens and underscores is taken as it stands where no browser's rules apply.
-/

namespace SqlProbe.Url

open Text (isVisible)

/-! ### Texts without blanks -/

theorem clean_of_visible {cs : List Char} (visible : ∀ c ∈ cs, isVisible c = true) : clean cs = cs := by
  have inner : ∀ c ∈ cs, decide (c.toNat ≤ 0x20) = false := by
    intro c member
    have range := Text.isVisible_iff.mp (visible c member)
    simp only [decide_eq_false_iff_not]
    omega
  rw [clean, Text.dropWhile_of_forall inner,
    Text.dropWhile_of_forall fun c member => inner c (List.mem_reverse.mp member), List.reverse_reverse]
  refine List.filter_eq_self.mpr fun c member => ?_
  have range := Text.isVisible_iff.mp (visible c member)
  have other {d : Char} (low : d.toNat ≤ 0x20) : (c != d) = true := by
    rw [bne_iff_ne]
    rintro rfl
    omega
  simp [other (d := '\t') (by decide), other (d := '\n') (by decide), other (d := '\r') (by decide)]

/-! ### Hosts -/

/-- A character of a plain host. -/
def isHostChar (c : Char) : Bool := c.isAlphanum || c = '.' || c = '-' || c = '_'

theorem isVisible_of_isHostChar {c : Char} (plain : isHostChar c = true) : isVisible c = true := by
  simp only [isHostChar, Bool.or_eq_true, decide_eq_true_eq] at plain
  rcases plain with ((alphanum | rfl) | rfl) | rfl
  · exact Text.isVisible_of_isAlphanum alphanum
  · rfl
  · rfl
  · rfl

theorem ne_of_isHostChar {c d : Char} (plain : isHostChar c = true) (special : isHostChar d = false) :
    c ≠ d := by
  rintro rfl
  rw [plain] at special
  contradiction

theorem isHostChar_of_forbidden {c : Char} (forbidden : isForbiddenInHost c = true) :
    isHostChar c = false := by
  have every : ∀ d ∈ ['\x00', '\t', '\n', '\r', ' ', '#', '/', ':', '<', '>', '?', '@', '[', '\\', ']',
      '^', '|'], (!isHostChar d) = true := List.all_eq_true.mp (by decide)
  refine Bool.not_eq_true' _ |>.mp (every c ?_)
  simpa [isForbiddenInHost, or_assoc] using forbidden

/-- A host that is no address and whose characters stand for themselves. -/
structure IsPlainHost (host : List Char) : Prop where
  nonempty : host ≠ []
  plain : ∀ c ∈ host, isHostChar c = true

namespace IsPlainHost

variable {host : List Char} (plain : IsPlainHost host)
include plain

theorem not_mem {c : Char} (special : isHostChar c = false) : c ∉ host := fun member =>
  ne_of_isHostChar (plain.plain c member) special rfl

theorem opaqueHost : opaqueHost host = .ok host := by
  have bracket : host.head? ≠ some '[' := fun first =>
    plain.not_mem (by decide : isHostChar '[' = false) (List.mem_of_head? first)
  have allowed : host.any isForbiddenInHost = false := by
    refine List.any_eq_false.mpr fun c member forbidden => ?_
    exact plain.not_mem (isHostChar_of_forbidden forbidden) member
  rw [Url.opaqueHost, if_neg bracket, allowed, if_neg Bool.false_ne_true]
  refine congrArg _ (Text.Percent.encode_of_kept fun c member => ?_)
  have range := Text.isVisible_iff.mp (isVisible_of_isHostChar (plain.plain c member))
  simp only [isControl, Bool.not_eq_true', Bool.or_eq_false_iff, decide_eq_false_iff_not]
  omega

end IsPlainHost

theorem endsAuthority_of_isHostChar {c : Char} (plain : isHostChar c = true) (kind : SchemeKind) :
    kind.endsAuthority c = false := by
  have slash := ne_of_isHostChar plain (d := '/') (by decide)
  have backslash := ne_of_isHostChar plain (d := '\\') (by decide)
  have query := ne_of_isHostChar plain (d := '?') (by decide)
  have fragment := ne_of_isHostChar plain (d := '#') (by decide)
  simp [SchemeKind.endsAuthority, SchemeKind.isSlash, slash, backslash, query, fragment]

/-- A plain host ends where a colon or the end of the authority follows. -/
theorem spanHost_append {kind : SchemeKind} {host rest : List Char}
    (plain : ∀ c ∈ host, isHostChar c = true)
    (ends : ∀ c ∈ rest.head?, c = ':' ∨ kind.endsAuthority c = true) :
    spanHost kind false (host ++ rest) = (host, rest) := by
  induction host with
  | nil =>
    cases rest with
    | nil => rfl
    | cons c rest =>
      rw [List.nil_append, spanHost, if_pos]
      simpa using ends c rfl
  | cons c host ih =>
    have first := plain c List.mem_cons_self
    have colon := ne_of_isHostChar first (d := ':') (by decide)
    have opening := ne_of_isHostChar first (d := '[') (by decide)
    have closing := ne_of_isHostChar first (d := ']') (by decide)
    rw [List.cons_append, spanHost, if_neg (by simp [colon, endsAuthority_of_isHostChar first])]
    dsimp only
    rw [if_neg opening, if_neg closing, ih fun c member => plain c (List.mem_cons_of_mem _ member)]

/-! ### Ports -/

open Sql (Digits)

/-- A port behind a host: nothing, or a colon and the digits of a number. -/
inductive WritesPort : Option UInt16 → List Char → Prop
  | none : WritesPort none []
  | some {ds : List Char} (digits : Digits ds) (bounded : Nat.ofDigitChars 10 ds 0 ≤ 65535) :
      WritesPort (some (Nat.ofDigitChars 10 ds 0).toUInt16) (':' :: ds)

theorem WritesPort.eq_or_isDigit {port : Option UInt16} {text : List Char}
    (numbered : WritesPort port text) {c : Char} (member : c ∈ text) : c = ':' ∨ c.isDigit = true := by
  cases numbered with
  | none => cases member
  | some digits => exact (List.mem_cons.mp member).imp id (digits.digits c)

theorem WritesPort.not_endsAuthority {port : Option UInt16} {text : List Char}
    (numbered : WritesPort port text) {c : Char} (member : c ∈ text) :
    SchemeKind.other.endsAuthority c = false := by
  rcases numbered.eq_or_isDigit member with rfl | digit
  · rfl
  · exact endsAuthority_of_isHostChar (by simp [isHostChar, Char.isAlphanum, digit]) _

theorem cutPort_digits {ds rest : List Char} (digits : Digits ds)
    (bounded : Nat.ofDigitChars 10 ds 0 ≤ 65535) (ends : ∀ c ∈ rest.head?, endsPort c = true) :
    cutPort (ds ++ rest) = .ok (some (Nat.ofDigitChars 10 ds 0).toUInt16, rest) := by
  have stops : ∀ c ∈ rest.head?, c.isDigit = false := by
    intro c first
    have mark := ends c first
    simp only [endsPort, Bool.or_eq_true, decide_eq_true_eq] at mark
    rcases mark with ((rfl | rfl) | rfl) | rfl <;> decide
  have behind : rest.head?.all endsPort = true := by
    cases rest with
    | nil => rfl
    | cons c rest => exact ends c rfl
  rw [cutPort, Text.span_append digits.digits stops]
  dsimp only
  rw [if_neg (by simp [behind]; omega), if_neg digits.nonempty]

/-- A port behind a host in decimal. -/
def portText : Option UInt16 → List Char
  | none => []
  | some port => ':' :: Nat.toDigits 10 port.toNat

theorem writesPort_portText (port : Option UInt16) : WritesPort port (portText port) := by
  cases port with
  | none => exact .none
  | some port =>
    have digits : Digits (Nat.toDigits 10 port.toNat) := ⟨Nat.toDigits_ne_nil, fun c member =>
      Nat.isDigit_of_mem_toDigits (by decide) (by decide) member⟩
    have value := Nat.ofDigitChars_ten_toDigits (n := port.toNat)
    have bound := port.toNat_lt
    have written := WritesPort.some digits (by omega)
    rwa [value, Nat.toUInt16, UInt16.ofNat_toNat] at written

/-! ### Authorities -/

/-- What may stand behind an authority. -/
def StartsBehind (cs : List Char) : Prop := ∀ c ∈ cs.head?, c = '/' ∨ c = '?' ∨ c = '#'

/-- User information in front of a host. -/
def userinfoText (userinfo : List Char) : List Char :=
  if userinfo = [] then [] else userinfo ++ ['@']

theorem mem_userinfoText {userinfo : List Char} {c : Char} (member : c ∈ userinfoText userinfo) :
    c = '@' ∨ c ∈ userinfo := by
  rw [userinfoText] at member
  split at member
  · cases member
  · exact (List.mem_append.mp member).symm.imp List.mem_singleton.mp id

/-- The authority ends where what is behind it starts. -/
theorem takeWhile_authority {kind : SchemeKind} {authority behind : List Char}
    (inside : ∀ c ∈ authority, kind.endsAuthority c = false) (starts : StartsBehind behind) :
    (authority ++ behind).takeWhile (fun c => !kind.endsAuthority c) = authority := by
  rw [List.takeWhile_append_of_pos (by simpa using inside)]
  cases behind with
  | nil => exact List.append_nil _
  | cons c behind =>
    rw [List.takeWhile_cons_of_neg, List.append_nil]
    rcases starts c rfl with rfl | rfl | rfl <;> cases kind <;> decide

/-- The user information is what stands before the last at sign. -/
theorem cutAtLast?_userinfoText (userinfo : List Char) {rest : List Char} (free : '@' ∉ rest) :
    Text.cutAtLast? '@' (userinfoText userinfo ++ rest) =
      if userinfo = [] then none else some (userinfo, rest) := by
  rw [userinfoText]
  split
  · exact Text.cutAtLast?_eq_none free
  · rw [List.append_assoc]
    exact Text.cutAtLast?_append_cons userinfo free

/-- An authority comes apart as it was put together. -/
theorem parseAuthority_eq {scheme userinfo host number behind : List Char} {port : Option UInt16}
    (other : kindOf scheme = .other) (free : ∀ c ∈ userinfo, SchemeKind.other.endsAuthority c = false)
    (plain : IsPlainHost host) (numbered : WritesPort port number) (starts : StartsBehind behind) :
    parseAuthority scheme (userinfoText userinfo ++ (host ++ (number ++ behind))) = .ok {
      scheme, username := (credentials userinfo).1, password := (credentials userinfo).2
      host := some host, port, path := (pathAndQuery .other behind).1
      query := (pathAndQuery .other behind).2 } := by
  have inside : ∀ c ∈ userinfoText userinfo ++ (host ++ number),
      SchemeKind.other.endsAuthority c = false := by
    intro c member
    simp only [List.mem_append] at member
    rcases member with user | inside | digit
    · rcases mem_userinfoText user with rfl | user
      · rfl
      · exact free c user
    · exact endsAuthority_of_isHostChar (plain.plain c inside) _
    · exact numbered.not_endsAuthority digit
  have sign : '@' ∉ host ++ number := by
    refine mt List.mem_append.mp (not_or.mpr ⟨plain.not_mem (by decide), fun member => ?_⟩)
    rcases numbered.eq_or_isDigit member with same | digit
    · exact absurd same (by decide)
    · exact absurd digit (by decide)
  have hostEnds : ∀ c ∈ (number ++ behind).head?,
      c = ':' ∨ SchemeKind.other.endsAuthority c = true := by
    cases numbered with
    | none => exact fun c first => .inr (by rcases starts c first with rfl | rfl | rfl <;> rfl)
    | some => exact fun c first => .inl (Option.some.inj first).symm
  have span : spanHost .other false (host ++ (number ++ behind)) = (host, number ++ behind) :=
    spanHost_append plain.plain hostEnds
  have hosted : hostOf .other host = .ok host := plain.opaqueHost
  have stops : ∀ c ∈ behind.head?, endsPort c = true := by
    intro c first
    rcases starts c first with rfl | rfl | rfl <;> rfl
  have ok_bind {α β : Type} (a : α) (next : α → Except ParseError β) :
      Except.ok a >>= next = next a := rfl
  rw [parseAuthority, other]
  dsimp only
  rw [← List.append_assoc host, ← List.append_assoc, takeWhile_authority inside starts,
    cutAtLast?_userinfoText userinfo sign, List.drop_left]
  cases userinfo <;>
    simp only [userinfoText, reduceCtorEq, ↓reduceIte, List.nil_append, List.append_assoc, pure_bind,
      span, hosted, ok_bind, plain.nonempty, false_and]
  all_goals
    cases numbered with
    | some digits bounded =>
      simp only [List.cons_append, cutPort_digits digits bounded stops]
      rfl
    | none =>
      simp only [List.nil_append]
      split
      · next rest => rcases starts ':' rfl with same | same | same <;> exact absurd same (by decide)
      · rfl

end SqlProbe.Url
