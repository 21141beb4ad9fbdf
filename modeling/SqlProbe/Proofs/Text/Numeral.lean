import SqlProbe.Proofs.Sql.Numerals

/-!
# Reading and writing whole numbers

What the reader of a whole number without a minus sign accepts: digits behind an optional plus sign
that write a number within its bound. What is written for a number, with zeros in front or without,
are digits that write it, and the reader of signed numbers reads it back within its bounds. Digits
end at the first character that is none, so numbers with such characters between can be told apart.
-/

namespace SqlProbe.Text

open Sql (Digits)

theorem digits?_eq_some_iff {cs : List Char} {n : Nat} :
    digits? cs = some n ↔ Digits cs ∧ Nat.ofDigitChars 10 cs 0 = n := by
  rw [digits?]
  constructor
  · intro read
    split at read
    · next digits => exact ⟨⟨digits.1, List.all_eq_true.mp digits.2⟩, Option.some.inj read⟩
    · contradiction
  · rintro ⟨digits, value⟩
    rw [if_pos ⟨digits.nonempty, List.all_eq_true.mpr digits.digits⟩, value]

theorem natural?_of_digits {cs : List Char} (digits : Digits cs) {limit : Nat}
    (bounded : Nat.ofDigitChars 10 cs 0 ≤ limit) :
    natural? limit cs = some (Nat.ofDigitChars 10 cs 0) := by
  obtain ⟨d, ds, rfl⟩ := List.exists_cons_of_ne_nil digits.nonempty
  have unsigned : d ≠ '+' := (digits.bare [] d (by simp)).1
  have read : digits? (d :: ds) = some _ := digits?_eq_some_iff.mpr ⟨digits, rfl⟩
  unfold natural?
  dsimp only
  split
  · next rest same => exact absurd (List.cons.inj same).1 unsigned
  · rw [read]
    simpa using bounded

theorem natural?_eq_some {cs : List Char} {limit n : Nat} (read : natural? limit cs = some n) :
    ∃ sign ds, cs = sign ++ ds ∧ (sign = [] ∨ sign = ['+']) ∧ Digits ds ∧
      Nat.ofDigitChars 10 ds 0 = n ∧ n ≤ limit := by
  unfold natural? at read
  obtain ⟨inner, bounded⟩ := Option.filter_eq_some_iff.mp read
  have bounded : n ≤ limit := of_decide_eq_true bounded
  split at inner
  · next ds =>
    obtain ⟨digits, value⟩ := digits?_eq_some_iff.mp inner
    exact ⟨['+'], ds, rfl, .inr rfl, digits, value, bounded⟩
  · obtain ⟨digits, value⟩ := digits?_eq_some_iff.mp inner
    exact ⟨[], cs, rfl, .inl rfl, digits, value, bounded⟩

/-! ### Written numbers -/

theorem digits_digits (n : Nat) : Digits (digits n) :=
  ⟨Nat.toDigits_ne_nil, fun _ member => Nat.isDigit_of_mem_toDigits (by decide) (by decide) member⟩

theorem digits?_digits (n : Nat) : digits? (digits n) = some n :=
  digits?_eq_some_iff.mpr ⟨digits_digits n, Nat.ofDigitChars_ten_toDigits⟩

theorem digits_padded (width n : Nat) : Digits (padded width n) := by
  refine ⟨fun empty => (digits_digits n).nonempty (List.append_eq_nil_iff.mp empty).2, ?_⟩
  intro c member
  rcases List.mem_append.mp member with zero | digit
  · rw [List.eq_of_mem_replicate zero]
    decide
  · exact (digits_digits n).digits c digit

theorem ofDigitChars_padded (width n : Nat) : Nat.ofDigitChars 10 (padded width n) 0 = n := by
  rw [padded, List.leftpad, Nat.ofDigitChars_append, Nat.ofDigitChars_replicate_zero, Nat.mul_zero]
  exact Nat.ofDigitChars_ten_toDigits

/-- The digits of a number begin with a zero only if it is zero. -/
theorem head?_digits_ne_zero {n : Nat} (positive : 0 < n) : (digits n).head? ≠ some '0' := by
  induction n using Nat.strongRecOn with
  | ind n ih =>
    rw [digits]
    by_cases small : n < 10
    · rw [Nat.toDigits_of_lt_base small]
      clear ih
      revert positive
      revert n
      decide
    · have first := ih (n / 10) (by omega) (by omega)
      rw [digits] at first
      have nonempty : Nat.toDigits 10 (n / 10) ≠ [] := Nat.toDigits_ne_nil
      obtain ⟨d, ds, same⟩ := List.exists_cons_of_ne_nil nonempty
      rw [Nat.toDigits_of_base_le (by decide) (by omega), same]
      rwa [same] at first

/-- What is written for a number is read back if it is within the bounds. -/
theorem integer?_integer (low high n : Int) :
    integer? low high (integer n) = if low ≤ n ∧ n ≤ high then some n else none := by
  have filtered : (some n).filter (fun n => low ≤ n && n ≤ high) =
      if low ≤ n ∧ n ≤ high then some n else none := by
    simp [Option.filter_some]
  rw [integer, ← filtered]
  split
  · next negative =>
    have value : -(n.natAbs : Int) = n := by omega
    rw [integer?, digits?_digits]
    change (some (-(n.natAbs : Int))).filter _ = _
    rw [value]
  · next natural =>
    have value : (n.natAbs : Int) = n := by omega
    have read := digits?_digits n.natAbs
    obtain ⟨d, ds, same⟩ := List.exists_cons_of_ne_nil (digits_digits n.natAbs).nonempty
    obtain ⟨plus, minus⟩ := (digits_digits n.natAbs).bare [] d (by simp [same])
    rw [same] at read ⊢
    unfold integer?
    dsimp only
    split
    · next equal => exact absurd (List.cons.inj equal).1 minus
    · next equal => exact absurd (List.cons.inj equal).1 plus
    · rw [read]
      change (some (n.natAbs : Int)).filter _ = _
      rw [value]

/-- The digits of a number, at least `width` of them and with no zeros in front beyond that. -/
structure Writes (width n : Nat) (cs : List Char) : Prop where
  digits : Digits cs
  value : Nat.ofDigitChars 10 cs 0 = n
  wide : width ≤ cs.length
  least : width < cs.length → cs.head? ≠ some '0'

theorem writes_padded {width : Nat} (positive : 0 < width) (n : Nat) :
    Writes width n (padded width n) := by
  refine ⟨digits_padded width n, ofDigitChars_padded width n, ?_, ?_⟩
  · rw [padded, List.length_leftpad]
    omega
  · intro long
    rw [padded, List.length_leftpad] at long
    have several : width < (digits n).length := by omega
    have large : 0 < n := by
      by_contra zero
      obtain rfl := Nat.eq_zero_of_not_pos zero
      rw [digits, Nat.toDigits_zero, List.length_singleton] at several
      omega
    rw [padded, List.leftpad, Nat.sub_eq_zero_of_le (by omega)]
    exact head?_digits_ne_zero large

/-! ### Numbers behind one another -/

variable {ds ds' rest rest' : List Char} {width n n' : Nat}

/-- Two texts that begin with digits are the same only if they begin with the same digits. -/
theorem append_inj_of_digits (digits : Digits ds) (digits' : Digits ds')
    (stop : ∀ c ∈ rest.head?, c.isDigit = false) (stop' : ∀ c ∈ rest'.head?, c.isDigit = false)
    (same : ds ++ rest = ds' ++ rest') : ds = ds' ∧ rest = rest' := by
  have spanned := Sql.spanDigits_eq digits.digits stop
  rw [same, Sql.spanDigits_eq digits'.digits stop'] at spanned
  obtain ⟨front, behind⟩ := Prod.mk.inj spanned
  exact ⟨front.symm, behind.symm⟩

theorem Writes.append_inj (writes : Writes width n ds) (writes' : Writes width n' ds')
    (stop : ∀ c ∈ rest.head?, c.isDigit = false) (stop' : ∀ c ∈ rest'.head?, c.isDigit = false)
    (same : ds ++ rest = ds' ++ rest') : n = n' ∧ rest = rest' := by
  obtain ⟨rfl, behind⟩ := append_inj_of_digits writes.digits writes'.digits stop stop' same
  exact ⟨writes.value.symm.trans writes'.value, behind⟩

theorem Writes.append_cons_inj {mark : Char} (writes : Writes width n ds)
    (writes' : Writes width n' ds') (other : mark.isDigit = false)
    (same : ds ++ mark :: rest = ds' ++ mark :: rest') : n = n' ∧ rest = rest' := by
  have stop (rest : List Char) : ∀ c ∈ (mark :: rest).head?, c.isDigit = false := by
    rintro c ⟨⟩
    exact other
  obtain ⟨number, behind⟩ := writes.append_inj writes' (stop rest) (stop rest') same
  exact ⟨number, (List.cons.inj behind).2⟩

theorem padded_append_inj (positive : 0 < width) (stop : ∀ c ∈ rest.head?, c.isDigit = false)
    (stop' : ∀ c ∈ rest'.head?, c.isDigit = false)
    (same : padded width n ++ rest = padded width n' ++ rest') : n = n' ∧ rest = rest' :=
  (writes_padded positive n).append_inj (writes_padded positive n') stop stop' same

theorem padded_append_cons_inj {mark : Char} (positive : 0 < width) (other : mark.isDigit = false)
    (same : padded width n ++ mark :: rest = padded width n' ++ mark :: rest') :
    n = n' ∧ rest = rest' :=
  (writes_padded positive n).append_cons_inj (writes_padded positive n') other same

end SqlProbe.Text
