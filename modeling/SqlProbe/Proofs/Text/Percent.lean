import SqlProbe.Proofs.Text.Utf8
import SqlProbe.Text.Percent

/-!
# Percent encoding there and back

Decoding reads back what encoding writes, whatever characters are kept, as long as the percent sign
is not. A text that nobody encoded comes through decoding unchanged exactly if no percent sign in it
has two hexadecimal digits behind it, and no text becomes longer.
-/

namespace SqlProbe.Text

/-- A character of ASCII is one byte. -/
theorem utf8EncodeChar_of_ascii {c : Char} (ascii : c.toNat < 0x80) :
    String.utf8EncodeChar c = [UInt8.ofNat c.toNat] := by
  rw [String.utf8EncodeChar]
  exact if_pos (show c.toNat ≤ 127 by omega)

/-- Every byte of a character beyond ASCII is beyond ASCII. -/
theorem le_of_mem_utf8EncodeChar {c : Char} (beyond : 0x80 ≤ c.toNat) {b : UInt8}
    (member : b ∈ String.utf8EncodeChar c) : 0x80 ≤ b.toNat := by
  obtain ⟨b0, tail, bytes, spells⟩ := Utf8.exists_spells c
  rw [bytes] at member
  cases spells <;> simp only [Utf8.Continues, List.mem_cons, List.not_mem_nil, or_false] at * <;>
    rcases member with rfl | rfl | rfl | rfl <;> omega

namespace Percent

/-- The percent sign as a byte. -/
abbrev sign : UInt8 := 0x25

theorem ne_sign_of_mem_utf8EncodeChar {c : Char} (other : c ≠ '%') {b : UInt8}
    (member : b ∈ String.utf8EncodeChar c) : b ≠ sign := by
  by_cases ascii : c.toNat < 0x80
  · rw [utf8EncodeChar_of_ascii ascii, List.mem_singleton] at member
    rintro rfl
    have value : c.toNat = 0x25 := by
      rw [← Utf8.toNat_ofNat_of_lt (show c.toNat < 256 by omega), ← member]
      rfl
    exact other (by rw [← Char.ofNat_toNat c, value])
  · rintro rfl
    have beyond := le_of_mem_utf8EncodeChar (by omega) member
    exact absurd beyond (by decide)

/-! ### Decoding bytes -/

theorem decodeBytes_nil : decodeBytes [] = [] := by rw [decodeBytes]

theorem decodeBytes_cons_of_ne {b : UInt8} (other : b ≠ sign) (rest : List UInt8) :
    decodeBytes (b :: rest) = b :: decodeBytes rest := by
  rw [decodeBytes, if_neg other]

theorem decodeBytes_append {bytes : List UInt8} (free : ∀ b ∈ bytes, b ≠ sign)
    (rest : List UInt8) : decodeBytes (bytes ++ rest) = bytes ++ decodeBytes rest := by
  induction bytes with
  | nil => rfl
  | cons b bytes ih =>
    rw [List.cons_append, decodeBytes_cons_of_ne (free b List.mem_cons_self),
      ih fun other member => free other (List.mem_cons_of_mem _ member), List.cons_append]

theorem decodeBytes_sign_of_none {rest : List UInt8} (plain : encoded? rest = none) :
    decodeBytes (sign :: rest) = sign :: decodeBytes rest := by
  rw [decodeBytes, if_pos rfl, plain]

theorem decodeBytes_sign_of_some {rest : List UInt8} {byte : UInt8}
    (escape : encoded? rest = some byte) :
    decodeBytes (sign :: rest) = byte :: decodeBytes (rest.drop 2) := by
  rw [decodeBytes, if_pos rfl, escape]

theorem two_le_of_encoded? {rest : List UInt8} {byte : UInt8}
    (escape : encoded? rest = some byte) : 2 ≤ rest.length := by
  rcases rest with _ | ⟨high, _ | ⟨low, rest⟩⟩
  · cases escape
  · cases escape
  · exact Nat.le_add_left ..

theorem length_decodeBytes_le (bytes : List UInt8) : (decodeBytes bytes).length ≤ bytes.length := by
  fun_induction decodeBytes bytes with
  | case1 => exact Nat.le_refl _
  | case2 rest byte escape ih =>
    have long := two_le_of_encoded? escape
    simp only [List.length_cons, List.length_drop] at ih ⊢
    omega
  | case3 rest plain ih => exact Nat.succ_le_succ ih
  | case4 b rest other ih => exact Nat.succ_le_succ ih

/-- The bytes do not begin with a hexadecimal digit. -/
def NoDigitAhead (bytes : List UInt8) : Prop :=
  ∀ b ∈ bytes.head?, hexDigit? (Char.ofNat b.toNat) = none

theorem encoded?_append (front : List UInt8) {rest : List UInt8} (stops : NoDigitAhead rest) :
    encoded? (front ++ rest) = encoded? front := by
  rcases front with _ | ⟨high, _ | ⟨low, front⟩⟩
  · rcases rest with _ | ⟨b, _ | ⟨c, rest⟩⟩
    · rfl
    · rfl
    · simp [encoded?, stops b rfl]
  · rcases rest with _ | ⟨b, rest⟩
    · rfl
    · cases digit : hexDigit? (Char.ofNat high.toNat) <;> simp [encoded?, digit, stops b rfl]
  · rfl

/-- No escape reaches over a byte that is no hexadecimal digit, so what stands before it and what
stands from it on are decoded apart. -/
theorem decodeBytes_append_of_stops (front : List UInt8) {rest : List UInt8}
    (stops : NoDigitAhead rest) :
    decodeBytes (front ++ rest) = decodeBytes front ++ decodeBytes rest := by
  fun_induction decodeBytes front with
  | case1 => rfl
  | case2 front byte escape ih =>
    have long := two_le_of_encoded? escape
    rw [← encoded?_append front stops] at escape
    rw [List.cons_append, decodeBytes_sign_of_some escape, List.drop_append_of_le_length long, ih]
    rfl
  | case3 front plain ih =>
    rw [← encoded?_append front stops] at plain
    rw [List.cons_append, decodeBytes_sign_of_none plain, ih]
    rfl
  | case4 b front other ih => rw [List.cons_append, decodeBytes_cons_of_ne other, ih, List.cons_append]

/-- A blank that is encoded is decoded as one that is not. -/
theorem decodeBytes_blank (front behind : List UInt8) :
    decodeBytes (front ++ sign :: 0x32 :: 0x30 :: behind) = decodeBytes (front ++ 0x20 :: behind) := by
  have escape : encoded? (0x32 :: 0x30 :: behind) = some 0x20 := rfl
  have signStops : NoDigitAhead (sign :: 0x32 :: 0x30 :: behind) := by
    rintro b ⟨⟩
    decide
  have blankStops : NoDigitAhead (0x20 :: behind) := by
    rintro b ⟨⟩
    decide
  rw [decodeBytes_append_of_stops front signStops, decodeBytes_append_of_stops front blankStops,
    decodeBytes_sign_of_some escape, decodeBytes_cons_of_ne (by decide)]
  rfl

/-! ### Encoded texts -/

theorem hexDigit?_hexDigit {n : Nat} (small : n < 16) :
    hexDigit? (Char.ofNat (UInt8.ofNat (hexDigit n).toNat).toNat) = some n := by
  revert n
  decide

theorem hexDigit_ascii {n : Nat} (small : n < 16) : (hexDigit n).toNat < 0x80 := by
  revert n
  decide

theorem encode_encodeByte (b : UInt8) :
    Utf8.encode (encodeByte b) = [sign, UInt8.ofNat (hexDigit (b.toNat / 16)).toNat,
      UInt8.ofNat (hexDigit (b.toNat % 16)).toNat] := by
  have bound := b.toNat_lt
  simp only [encodeByte, Utf8.encode_cons, Utf8.encode_nil,
    utf8EncodeChar_of_ascii (hexDigit_ascii (show b.toNat / 16 < 16 by omega)),
    utf8EncodeChar_of_ascii (hexDigit_ascii (show b.toNat % 16 < 16 by omega)),
    List.cons_append, List.nil_append]
  rfl

theorem decodeBytes_encodeByte (b : UInt8) (rest : List UInt8) :
    decodeBytes (Utf8.encode (encodeByte b) ++ rest) = b :: decodeBytes rest := by
  have bound := b.toNat_lt
  have escape : encoded? (UInt8.ofNat (hexDigit (b.toNat / 16)).toNat ::
      UInt8.ofNat (hexDigit (b.toNat % 16)).toNat :: rest) = some b := by
    simp only [encoded?, hexDigit?_hexDigit (show b.toNat / 16 < 16 by omega),
      hexDigit?_hexDigit (show b.toNat % 16 < 16 by omega), Option.bind_eq_bind, Option.bind_some,
      Nat.div_add_mod, UInt8.ofNat_toNat]
    rfl
  rw [encode_encodeByte]
  exact decodeBytes_sign_of_some escape

/-- What a byte is written as. -/
def written (keep : Char → Bool) (b : UInt8) : List Char :=
  if b < 0x80 ∧ keep (Char.ofNat b.toNat) then [Char.ofNat b.toNat] else encodeByte b

theorem encode_eq_flatMap (keep : Char → Bool) (cs : List Char) :
    encode keep cs = (Utf8.encode cs).flatMap (written keep) := rfl

theorem decodeBytes_written {keep : Char → Bool} (escapes : keep '%' = false) (b : UInt8)
    (rest : List UInt8) :
    decodeBytes (Utf8.encode (written keep b) ++ rest) = b :: decodeBytes rest := by
  unfold written
  split
  · next kept =>
    have ascii : b.toNat < 0x80 := UInt8.lt_iff_toNat_lt.mp kept.1
    have value : (Char.ofNat b.toNat).toNat = b.toNat := Utf8.toNat_ofNat_of_valid (by omega)
    rw [Utf8.encode_cons, utf8EncodeChar_of_ascii (by omega), value, UInt8.ofNat_toNat]
    refine decodeBytes_cons_of_ne ?_ _
    rintro rfl
    exact absurd (escapes.symm.trans kept.2) Bool.false_ne_true
  · exact decodeBytes_encodeByte b rest

theorem decodeBytes_encode {keep : Char → Bool} (escapes : keep '%' = false) (cs : List Char) :
    decodeBytes (Utf8.encode (encode keep cs)) = Utf8.encode cs := by
  rw [encode_eq_flatMap]
  induction Utf8.encode cs with
  | nil => exact decodeBytes_nil
  | cons b bytes ih =>
    rw [List.flatMap_cons, Utf8.encode_append, decodeBytes_written escapes, ih]

/-- What is encoded is read back, whichever characters are kept beside the percent sign. -/
theorem decode_encode {keep : Char → Bool} (escapes : keep '%' = false) (cs : List Char) :
    decode (encode keep cs) = .ok cs := by
  rw [decode, decodeBytes_encode escapes, Utf8.decode_encode]

theorem mem_encode {keep : Char → Bool} {cs : List Char} {c : Char} (member : c ∈ encode keep cs) :
    (c.toNat < 0x80 ∧ keep c = true) ∨ c = '%' ∨ ∃ n < 16, c = hexDigit n := by
  obtain ⟨b, -, member⟩ := List.mem_flatMap.mp member
  have bound := b.toNat_lt
  split at member
  · next kept =>
    have ascii : b.toNat < 0x80 := UInt8.lt_iff_toNat_lt.mp kept.1
    obtain rfl := List.mem_singleton.mp member
    exact .inl ⟨by rwa [Utf8.toNat_ofNat_of_valid (by omega)], kept.2⟩
  · simp only [encodeByte, List.mem_cons, List.not_mem_nil, or_false] at member
    rcases member with rfl | rfl | rfl
    · exact .inr (.inl rfl)
    · exact .inr (.inr ⟨_, by omega, rfl⟩)
    · exact .inr (.inr ⟨_, by omega, rfl⟩)

/-- A text of kept characters is written as it stands. -/
theorem encode_of_kept {keep : Char → Bool} {cs : List Char}
    (kept : ∀ c ∈ cs, c.toNat < 0x80 ∧ keep c = true) : encode keep cs = cs := by
  induction cs with
  | nil => rfl
  | cons c cs ih =>
    obtain ⟨ascii, keeps⟩ := kept c List.mem_cons_self
    have value : (UInt8.ofNat c.toNat).toNat = c.toNat := Utf8.toNat_ofNat_of_lt (by omega)
    rw [encode_eq_flatMap, Utf8.encode_cons, utf8EncodeChar_of_ascii ascii, List.flatMap_append,
      ← encode_eq_flatMap, ih fun other member => kept other (List.mem_cons_of_mem _ member)]
    simp only [List.flatMap_cons, List.flatMap_nil, List.append_nil, written, value,
      Char.ofNat_toNat, keeps, and_true]
    rw [if_pos (UInt8.lt_iff_toNat_lt.mpr (by rw [value]; exact ascii)), List.singleton_append]

theorem encode_ne_nil {keep : Char → Bool} (escapes : keep '%' = false) {cs : List Char}
    (nonempty : cs ≠ []) : encode keep cs ≠ [] := by
  intro empty
  have read := decode_encode escapes cs
  rw [empty] at read
  have empty : decode [] = .ok [] := decode_encode escapes []
  exact nonempty (Except.ok.inj (read.symm.trans empty))

/-! ### Texts that nobody encoded -/

/-- The text begins with two hexadecimal digits. -/
def beginsWithDigits : List Char → Bool
  | high :: low :: _ => (hexDigit? high).isSome && (hexDigit? low).isSome
  | _ => false

/-- A percent sign of the text has two hexadecimal digits behind it. -/
def hasEscape : List Char → Bool
  | [] => false
  | c :: cs => (c == '%' && beginsWithDigits cs) || hasEscape cs

theorem hexDigit?_eq_none {c : Char} (beyond : 0x80 ≤ c.toNat) : hexDigit? c = none := by
  have above (d : Char) (ascii : d.toNat < 0x80) : ¬ c ≤ d := fun below =>
    absurd (Char.le_def.mp below) (by rw [UInt32.le_iff_toNat_le]; change ¬ c.toNat ≤ d.toNat; omega)
  have digit : c.isDigit = false := by
    simp only [Char.isDigit, Bool.and_eq_false_iff, decide_eq_false_iff_not]
    exact .inr fun below => above '9' (by decide) below
  rw [hexDigit?, digit, if_neg Bool.false_ne_true, if_neg fun range => above 'f' (by decide) range.2,
    if_neg fun range => above 'F' (by decide) range.2]

/-- The digit that the first byte of a text writes is the one its first character writes. -/
theorem hexDigit?_head (c : Char) (cs : List Char) :
    ∃ b rest, Utf8.encode (c :: cs) = b :: rest ∧ hexDigit? (Char.ofNat b.toNat) = hexDigit? c ∧
      ((hexDigit? c).isSome → rest = Utf8.encode cs) := by
  by_cases ascii : c.toNat < 0x80
  · refine ⟨UInt8.ofNat c.toNat, Utf8.encode cs, ?_, ?_, fun _ => rfl⟩
    · rw [Utf8.encode_cons, utf8EncodeChar_of_ascii ascii, List.singleton_append]
    · rw [Utf8.toNat_ofNat_of_lt (by omega), Char.ofNat_toNat]
  · obtain ⟨b, tail, bytes, -⟩ := Utf8.exists_spells c
    have beyond := le_of_mem_utf8EncodeChar (by omega) (bytes ▸ List.mem_cons_self)
    have value := Utf8.toNat_ofNat_of_valid (n := b.toNat) (by have := b.toNat_lt; omega)
    refine ⟨b, tail ++ Utf8.encode cs, by rw [Utf8.encode_cons, bytes, List.cons_append], ?_, ?_⟩
    · rw [hexDigit?_eq_none (by omega), hexDigit?_eq_none (by omega)]
    · rw [hexDigit?_eq_none (by omega)]
      exact fun some => absurd some Bool.false_ne_true

theorem isSome_encoded? (cs : List Char) :
    (encoded? (Utf8.encode cs)).isSome = beginsWithDigits cs := by
  rcases cs with _ | ⟨high, cs⟩
  · rfl
  obtain ⟨b, rest, bytes, first, behind⟩ := hexDigit?_head high cs
  rw [bytes]
  cases digit : hexDigit? high with
  | none =>
    rw [digit] at first
    cases rest <;> cases cs <;> simp [encoded?, beginsWithDigits, first, digit]
  | some h =>
    rw [digit] at first
    rw [behind (by rw [digit]; rfl)]
    rcases cs with _ | ⟨low, cs⟩
    · rfl
    obtain ⟨b', rest', bytes', second, -⟩ := hexDigit?_head low cs
    rw [bytes']
    cases digit' : hexDigit? low <;> rw [digit'] at second <;>
      simp [encoded?, beginsWithDigits, first, second, digit, digit']

theorem decodeBytes_of_plain {cs : List Char} (plain : hasEscape cs = false) :
    decodeBytes (Utf8.encode cs) = Utf8.encode cs := by
  induction cs with
  | nil => exact decodeBytes_nil
  | cons c cs ih =>
    rw [hasEscape, Bool.or_eq_false_iff] at plain
    rw [Utf8.encode_cons]
    by_cases percent : c = '%'
    · subst percent
      have none : encoded? (Utf8.encode cs) = none := by
        rw [← Option.not_isSome_iff_eq_none, isSome_encoded?]
        simpa using plain.1
      exact (decodeBytes_sign_of_none none).trans (congrArg _ (ih plain.2))
    · rw [decodeBytes_append (fun _ => ne_sign_of_mem_utf8EncodeChar percent), ih plain.2]

/-- An escape makes a text shorter when it is decoded. -/
theorem length_decodeBytes_lt {cs : List Char} (escape : hasEscape cs = true) :
    (decodeBytes (Utf8.encode cs)).length < (Utf8.encode cs).length := by
  induction cs with
  | nil => cases escape
  | cons c cs ih =>
    rw [hasEscape, Bool.or_eq_true] at escape
    rw [Utf8.encode_cons]
    by_cases percent : c = '%'
    · subst percent
      change (decodeBytes (sign :: Utf8.encode cs)).length < (sign :: Utf8.encode cs).length
      cases digits : encoded? (Utf8.encode cs) with
      | some byte =>
        have long := two_le_of_encoded? digits
        have shorter := length_decodeBytes_le ((Utf8.encode cs).drop 2)
        rw [decodeBytes_sign_of_some digits]
        simp only [List.length_cons, List.length_drop] at shorter ⊢
        omega
      | none =>
        rw [← isSome_encoded?, digits] at escape
        rw [decodeBytes_sign_of_none digits]
        exact Nat.succ_lt_succ (ih (by simpa using escape))
    · rw [decodeBytes_append (fun _ => ne_sign_of_mem_utf8EncodeChar percent)]
      simp only [List.length_append]
      exact Nat.add_lt_add_left (ih (by simpa [percent] using escape)) _

end Percent

end SqlProbe.Text
