import SqlProbe.Text.Utf8

/-!
# Encoding and decoding UTF-8

Decoding reads back exactly what encoding writes: bytes that decode are the encoding of what they
decode to, and no other bytes decode to it. What a character looks like is said once, by the ranges
of its bytes and the number that they carry; the encoder and the decoder are both held to that. The
bytes of texts are in the order of the texts.
-/

namespace SqlProbe.Text.Utf8

@[simp] theorem encode_nil : encode [] = [] := rfl

@[simp] theorem encode_cons (c : Char) (cs : List Char) :
    encode (c :: cs) = String.utf8EncodeChar c ++ encode cs := rfl

@[simp] theorem encode_append (as bs : List Char) : encode (as ++ bs) = encode as ++ encode bs :=
  List.flatMap_append

theorem toNat_ofNat_of_lt {n : Nat} (small : n < 256) : (UInt8.ofNat n).toNat = n := by
  rw [UInt8.toNat_ofNat']
  omega

/-! ### One character -/

/-- The byte continues a sequence. -/
def Continues (b : UInt8) : Prop := 0x80 ≤ b.toNat ∧ b.toNat ≤ 0xBF

theorem isTail_iff {b : UInt8} : isTail b = true ↔ Continues b := by
  simp only [isTail, Bool.and_eq_true, decide_eq_true_eq, UInt8.le_iff_toNat_le, UInt8.reduceToNat,
    Continues]

/-- The bytes of a character. None of the longer sequences carries a number that a shorter one
could; that the number is a code point is said by the character. -/
inductive Spells (c : Char) : UInt8 → List UInt8 → Prop
  | one {b0 : UInt8} (first : b0.toNat < 0x80) (value : c.toNat = b0.toNat) : Spells c b0 []
  | two {b0 b1 : UInt8} (first : 0xC2 ≤ b0.toNat ∧ b0.toNat ≤ 0xDF) (second : Continues b1)
    (value : c.toNat = b0.toNat % 32 * 64 + tailBits b1) : Spells c b0 [b1]
  | three {b0 b1 b2 : UInt8} (first : 0xE0 ≤ b0.toNat ∧ b0.toNat ≤ 0xEF) (second : Continues b1)
    (third : Continues b2) (value : c.toNat = b0.toNat % 16 * 4096 + tailBits b1 * 64 + tailBits b2)
    (least : 0x800 ≤ c.toNat) : Spells c b0 [b1, b2]
  | four {b0 b1 b2 b3 : UInt8} (first : 0xF0 ≤ b0.toNat ∧ b0.toNat ≤ 0xF4) (second : Continues b1)
    (third : Continues b2) (fourth : Continues b3)
    (value : c.toNat = b0.toNat % 8 * 262144 + tailBits b1 * 4096 + tailBits b2 * 64 + tailBits b3)
    (least : 0x10000 ≤ c.toNat) : Spells c b0 [b1, b2, b3]

theorem toNat_valid (c : Char) : c.toNat < 0xD800 ∨ 0xDFFF < c.toNat ∧ c.toNat < 0x110000 :=
  c.valid

theorem exists_spells (c : Char) :
    ∃ b0 tail, String.utf8EncodeChar c = b0 :: tail ∧ Spells c b0 tail := by
  have valid := toNat_valid c
  have carries (n : Nat) (small : n < 64) :
      Continues (UInt8.ofNat (n + 128)) ∧ tailBits (UInt8.ofNat (n + 128)) = n := by
    simp only [Continues, tailBits, toNat_ofNat_of_lt (show n + 128 < 256 by omega)]
    omega
  unfold String.utf8EncodeChar
  dsimp only
  rw [show c.val.toNat = c.toNat from rfl]
  split
  · exact ⟨_, _, rfl, .one (by rw [toNat_ofNat_of_lt] <;> omega) (by rw [toNat_ofNat_of_lt]; omega)⟩
  split
  · refine ⟨_, _, rfl, .two ?_ (carries _ (by omega)).1 ?_⟩
    · rw [toNat_ofNat_of_lt] <;> omega
    · rw [toNat_ofNat_of_lt (by omega), (carries _ (by omega)).2]
      omega
  split
  · refine ⟨_, _, rfl, .three ?_ (carries _ (by omega)).1 (carries _ (by omega)).1 ?_ (by omega)⟩
    · rw [toNat_ofNat_of_lt] <;> omega
    · rw [toNat_ofNat_of_lt (by omega), (carries _ (by omega)).2, (carries _ (by omega)).2]
      omega
  · refine ⟨_, _, rfl, .four ?_ (carries _ (by omega)).1 (carries _ (by omega)).1
      (carries _ (by omega)).1 ?_ (by omega)⟩
    · rw [toNat_ofNat_of_lt] <;> omega
    · rw [toNat_ofNat_of_lt (by omega), (carries _ (by omega)).2, (carries _ (by omega)).2,
        (carries _ (by omega)).2]
      omega

theorem Spells.unique {c : Char} {b0 b0' : UInt8} {tail tail' : List UInt8}
    (one : Spells c b0 tail) (other : Spells c b0' tail') : b0 :: tail = b0' :: tail' := by
  simp only [List.cons.injEq]
  cases one <;> cases other <;>
    simp only [Continues, tailBits, List.cons.injEq, ← UInt8.toNat_inj, and_true, reduceCtorEq] at * <;>
    omega

theorem head3_eq {c : Char} {b0 b1 b2 low high : UInt8} (above : low.toNat ≤ b1.toNat)
    (below : b1.toNat ≤ high.toNat) (third : Continues b2)
    (value : c.toNat = b0.toNat % 16 * 4096 + tailBits b1 * 64 + tailBits b2) (rest : List UInt8) :
    head3 b0 low high (b1 :: b2 :: rest) = .char c 3 := by
  simp only [head3, UInt8.le_iff_toNat_le, above, below, decide_true, Bool.and_self,
    isTail_iff.mpr third, ← value, Char.ofNat_toNat, if_true]

theorem head4_eq {c : Char} {b0 b1 b2 b3 low high : UInt8} (above : low.toNat ≤ b1.toNat)
    (below : b1.toNat ≤ high.toNat) (third : Continues b2) (fourth : Continues b3)
    (value : c.toNat = b0.toNat % 8 * 262144 + tailBits b1 * 4096 + tailBits b2 * 64 + tailBits b3)
    (rest : List UInt8) : head4 b0 low high (b1 :: b2 :: b3 :: rest) = .char c 4 := by
  simp only [head4, UInt8.le_iff_toNat_le, above, below, decide_true, Bool.and_self,
    isTail_iff.mpr third, isTail_iff.mpr fourth, ← value, Char.ofNat_toNat, if_true]

/-- The decoder reads a character off the bytes that spell it. -/
theorem Spells.head {c : Char} {b0 : UInt8} {tail : List UInt8} (spells : Spells c b0 tail)
    (rest : List UInt8) : head b0 (tail ++ rest) = .char c (tail.length + 1) := by
  have valid := toNat_valid c
  have back : Char.ofNat c.toNat = c := Char.ofNat_toNat c
  unfold Utf8.head
  simp only [UInt8.lt_iff_toNat_lt, UInt8.le_iff_toNat_le, ← UInt8.toNat_inj, UInt8.reduceToNat]
  cases spells with
  | one first value =>
    rw [if_pos first, ← value, back]
    rfl
  | two first second value =>
    rw [if_neg (by omega), if_neg (by omega), if_pos first.2]
    simp only [head2, List.cons_append, isTail_iff.mpr second, ← value, back, if_true]
    rfl
  | three first second third value least =>
    -- The second byte keeps to its bounds because the number is neither small nor a surrogate.
    have read {low high : UInt8} (above : low.toNat ≤ _) (below : _ ≤ high.toNat) :=
      head3_eq above below third value rest
    simp only [Continues, tailBits] at second third value
    rw [if_neg (by omega), if_neg (by omega), if_neg (by omega)]
    split
    · refine read ?_ ?_ <;> simp only [UInt8.reduceToNat] <;> omega
    split
    · refine read ?_ ?_ <;> simp only [UInt8.reduceToNat] <;> omega
    rw [if_pos (by omega)]
    refine read ?_ ?_ <;> simp only [UInt8.reduceToNat] <;> omega
  | four first second third fourth value least =>
    have read {low high : UInt8} (above : low.toNat ≤ _) (below : _ ≤ high.toNat) :=
      head4_eq above below third fourth value rest
    simp only [Continues, tailBits] at second third fourth value
    rw [if_neg (by omega), if_neg (by omega), if_neg (by omega), if_neg (by omega),
      if_neg (by omega), if_neg (by omega)]
    split
    · refine read ?_ ?_ <;> simp only [UInt8.reduceToNat] <;> omega
    split
    · refine read ?_ ?_ <;> simp only [UInt8.reduceToNat] <;> omega
    rw [if_pos (by omega)]
    refine read ?_ ?_ <;> simp only [UInt8.reduceToNat] <;> omega

theorem toNat_ofNat_of_valid {n : Nat} (valid : n < 0xD800 ∨ 0xDFFF < n ∧ n < 0x110000) :
    (Char.ofNat n).toNat = n := by
  rw [Char.ofNat, dif_pos valid]
  rfl

theorem spells_of_head2 {b0 : UInt8} (first : 0xC2 ≤ b0.toNat ∧ b0.toNat ≤ 0xDF)
    {rest : List UInt8} {c : Char} {size : Nat} (read : head2 b0 rest = .char c size) :
    ∃ tail others, rest = tail ++ others ∧ size = tail.length + 1 ∧ Spells c b0 tail := by
  rcases rest with _ | ⟨b1, others⟩
  · cases read
  simp only [head2] at read
  split at read
  · next second =>
    rw [isTail_iff] at second
    cases read
    refine ⟨[b1], others, rfl, rfl, .two first second (toNat_ofNat_of_valid ?_)⟩
    simp only [Continues, tailBits] at *
    omega
  · cases read

/-- The number of a three-byte sequence whose second byte keeps to its bounds is neither small nor
a surrogate. -/
theorem spells_of_head3 {b0 low high : UInt8} (first : 0xE0 ≤ b0.toNat ∧ b0.toNat ≤ 0xEF)
    (bounds : 0x80 ≤ low.toNat ∧ high.toNat ≤ 0xBF)
    (large : b0.toNat = 0xE0 → 0xA0 ≤ low.toNat) (single : b0.toNat = 0xED → high.toNat ≤ 0x9F)
    {rest : List UInt8} {c : Char} {size : Nat} (read : head3 b0 low high rest = .char c size) :
    ∃ tail others, rest = tail ++ others ∧ size = tail.length + 1 ∧ Spells c b0 tail := by
  rcases rest with _ | ⟨b1, _ | ⟨b2, others⟩⟩
  · cases read
  · simp only [head3] at read
    split at read <;> cases read
  simp only [head3] at read
  split at read
  · next second =>
    simp only [Bool.and_eq_true, decide_eq_true_eq, UInt8.le_iff_toNat_le] at second
    split at read
    · next third =>
      rw [isTail_iff] at third
      cases read
      have value := toNat_ofNat_of_valid
        (n := b0.toNat % 16 * 4096 + tailBits b1 * 64 + tailBits b2) (by
          simp only [Continues, tailBits] at *
          omega)
      refine ⟨[b1, b2], others, rfl, rfl, .three first ⟨by omega, by omega⟩ third value ?_⟩
      rw [value]
      simp only [Continues, tailBits] at *
      omega
    · cases read
  · cases read

theorem spells_of_head4 {b0 low high : UInt8} (first : 0xF0 ≤ b0.toNat ∧ b0.toNat ≤ 0xF4)
    (bounds : 0x80 ≤ low.toNat ∧ high.toNat ≤ 0xBF)
    (large : b0.toNat = 0xF0 → 0x90 ≤ low.toNat) (last : b0.toNat = 0xF4 → high.toNat ≤ 0x8F)
    {rest : List UInt8} {c : Char} {size : Nat} (read : head4 b0 low high rest = .char c size) :
    ∃ tail others, rest = tail ++ others ∧ size = tail.length + 1 ∧ Spells c b0 tail := by
  rcases rest with _ | ⟨b1, _ | ⟨b2, _ | ⟨b3, others⟩⟩⟩
  · cases read
  · simp only [head4] at read
    split at read <;> cases read
  · simp only [head4] at read
    split at read
    · split at read <;> cases read
    · cases read
  simp only [head4] at read
  split at read
  · next second =>
    simp only [Bool.and_eq_true, decide_eq_true_eq, UInt8.le_iff_toNat_le] at second
    split at read
    · next third =>
      split at read
      · next fourth =>
        rw [isTail_iff] at third fourth
        cases read
        have value := toNat_ofNat_of_valid
          (n := b0.toNat % 8 * 262144 + tailBits b1 * 4096 + tailBits b2 * 64 + tailBits b3) (by
            simp only [Continues, tailBits] at *
            omega)
        refine ⟨[b1, b2, b3], others, rfl, rfl,
          .four first ⟨by omega, by omega⟩ third fourth value ?_⟩
        rw [value]
        simp only [Continues, tailBits] at *
        omega
      · cases read
    · cases read
  · cases read

/-- What the decoder takes for a character is spelled by the bytes that it takes. -/
theorem spells_of_head {b0 : UInt8} {rest : List UInt8} {c : Char} {size : Nat}
    (read : head b0 rest = .char c size) :
    ∃ tail others, rest = tail ++ others ∧ size = tail.length + 1 ∧ Spells c b0 tail := by
  unfold head at read
  simp only [UInt8.lt_iff_toNat_lt, UInt8.le_iff_toNat_le, ← UInt8.toNat_inj,
    UInt8.reduceToNat] at read
  split at read
  · next ascii =>
    cases read
    exact ⟨[], rest, rfl, rfl, .one ascii (toNat_ofNat_of_valid (by omega))⟩
  split at read
  · cases read
  split at read
  · exact spells_of_head2 (by omega) read
  split at read
  · exact spells_of_head3 (by omega) (by decide) (fun _ => by decide) (by omega) read
  split at read
  · exact spells_of_head3 (by omega) (by decide) (by omega) (fun _ => by decide) read
  split at read
  · exact spells_of_head3 (by omega) (by decide) (by omega) (by omega) read
  split at read
  · exact spells_of_head4 (by omega) (by decide) (fun _ => by decide) (by omega) read
  split at read
  · exact spells_of_head4 (by omega) (by decide) (by omega) (by omega) read
  split at read
  · exact spells_of_head4 (by omega) (by decide) (by omega) (fun _ => by decide) read
  · cases read

/-! ### Texts -/

theorem decodeFrom_encode (index : Nat) (cs : List Char) :
    decodeFrom index (encode cs) = .ok cs := by
  induction cs generalizing index with
  | nil => simp [decodeFrom]
  | cons c cs ih =>
    obtain ⟨b0, tail, bytes, spells⟩ := exists_spells c
    rw [encode_cons, bytes, List.cons_append, decodeFrom, spells.head]
    simp only [Nat.add_sub_cancel, List.drop_left, ih]
    rfl

theorem encode_of_decodeFrom {index : Nat} {bytes : List UInt8} {cs : List Char}
    (read : decodeFrom index bytes = .ok cs) : encode cs = bytes := by
  fun_induction decodeFrom index bytes generalizing cs with
  | case1 index => cases read; rfl
  | case2 index b0 rest c size found ih =>
    obtain ⟨tail, others, rfl, rfl, spells⟩ := spells_of_head found
    obtain ⟨b0', tail', bytes, spells'⟩ := exists_spells c
    simp only [Nat.add_sub_cancel, List.drop_left] at read ih
    cases behind : decodeFrom (index + (tail.length + 1)) others with
    | error fault => rw [behind] at read; cases read
    | ok cs' =>
      rw [behind] at read
      cases read
      rw [encode_cons, bytes, ih behind, spells'.unique spells]
      rfl
  | case3 index b0 rest length found => cases read

/-- Decoding succeeds on the encodings of texts alone, and gives the text. -/
theorem decode_eq_ok_iff {bytes : List UInt8} {cs : List Char} :
    decode bytes = .ok cs ↔ bytes = encode cs :=
  ⟨fun read => (encode_of_decodeFrom read).symm, fun same => same ▸ decodeFrom_encode 0 cs⟩

theorem decode_encode (cs : List Char) : decode (encode cs) = .ok cs := decode_eq_ok_iff.mpr rfl

theorem encode_injective {as bs : List Char} (same : encode as = encode bs) : as = bs := by
  have read := decode_encode as
  rw [same, decode_encode] at read
  exact (Except.ok.inj read).symm

/-! ### Order -/

/-- The bytes of a smaller character are smaller at a byte that both characters have, so what stands
behind the characters does not matter. -/
theorem Spells.lt {c d : Char} {b0 d0 : UInt8} {tail tail' : List UInt8} (one : Spells c b0 tail)
    (other : Spells d d0 tail') (less : c.toNat < d.toNat) (rest rest' : List UInt8) :
    b0 :: (tail ++ rest) < d0 :: (tail' ++ rest') := by
  -- The first byte tells how long a sequence is, and longer ones begin with greater bytes.
  cases one <;> cases other <;>
    simp only [Continues, tailBits, List.cons_append, List.nil_append, List.cons_lt_cons_iff,
      UInt8.lt_iff_toNat_lt, ← UInt8.toNat_inj] at * <;>
    omega

theorem encode_lt_encode {as bs : List Char} (before : as < bs) : encode as < encode bs := by
  induction before with
  | @nil b bs =>
    obtain ⟨b0, tail, bytes, -⟩ := exists_spells b
    rw [encode_cons, bytes]
    exact List.nil_lt_cons ..
  | @rel a as b bs less =>
    obtain ⟨a0, tail, bytes, spells⟩ := exists_spells a
    obtain ⟨b0, tail', bytes', spells'⟩ := exists_spells b
    rw [encode_cons, encode_cons, bytes, bytes']
    exact spells.lt spells' (UInt32.lt_iff_toNat_lt.mp less) (encode as) (encode bs)
  | @cons a as bs _ ih =>
    rw [encode_cons, encode_cons]
    exact List.append_left_lt ih

end SqlProbe.Text.Utf8
