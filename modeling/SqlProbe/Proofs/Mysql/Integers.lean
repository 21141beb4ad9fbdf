import Mathlib.Algebra.Ring.Int.Defs
import SqlProbe.Mysql.Wire
import SqlProbe.Proofs.Text.Numeral
import SqlProbe.Proofs.Text.Utf8
import SqlProbe.Proofs.Text.Visible

/-!
# Whole numbers on the wire

A whole number comes as its decimal text or in binary, signed or unsigned. Both are read as a signed
number of 64 bits as long as it is one. Beyond, the two differ: a number in binary is kept as a
decimal, which is sent back as a number, and a text is kept as a string, which is sent back between
quotes.
-/

namespace SqlProbe.Mysql

/-- The types of columns of whole numbers. -/
def ColumnType.integers : List ColumnType := [tiny, short, long, longLong, int24, year]

theorem ColumnType.reading_eq_integer_iff {type : ColumnType} :
    type.reading = .integer ↔ type ∈ integers := by
  cases type <;> decide

namespace Wire

/-- The decimal text of a whole number. -/
def ofInteger (n : Int) : Wire := .bytes (Text.Utf8.encode (Text.integer n))

/-- The wire value is a whole number in binary. -/
inductive Carries : Wire → Int → Prop
  | signed (n : Int64) : Carries (.int n) n.toInt
  | unsigned (n : UInt64) : Carries (.uint n) n.toNat

variable {type : ColumnType} {wire : Wire} {n : Int}

theorem exists_carries (low : -2 ^ 63 ≤ n) (high : n < 2 ^ 64) : ∃ wire, Carries wire n := by
  by_cases small : n < 2 ^ 63
  · have number := Carries.signed (Int64.ofInt n)
    rw [Int64.toInt_ofInt_of_le low small] at number
    exact ⟨_, number⟩
  · have number := Carries.unsigned (UInt64.ofNat n.toNat)
    have fits : n.toNat < UInt64.size := by
      unfold UInt64.size
      omega
    rw [UInt64.toNat_ofNat_of_lt' fits, Int.toNat_of_nonneg (by omega)] at number
    exact ⟨_, number⟩

/-! ### What is read -/

theorem toValue_ofInteger (whole : type ∈ ColumnType.integers) :
    (ofInteger n).toValue type = some (if -2 ^ 63 ≤ n ∧ n < 2 ^ 63 then .int64 (Int64.ofInt n)
      else .string (String.ofList (Text.integer n))) := by
  have decoded : Text.Utf8.decode? (Text.Utf8.encode (Text.integer n)) = some (Text.integer n) := by
    rw [Text.Utf8.decode?, Text.Utf8.decode_encode]
    rfl
  have least : Int64.minValue.toInt = -2 ^ 63 := Int64.toInt_minValue
  have most : Int64.maxValue.toInt = 2 ^ 63 - 1 := by decide
  rw [ofInteger, toValue, decoded]
  dsimp only
  rw [ofText, ColumnType.reading_eq_integer_iff.mpr whole, String.toList_ofList]
  dsimp only
  rw [Text.int64?, Text.integer?_integer, least, most]
  by_cases fits : -2 ^ 63 ≤ n ∧ n < 2 ^ 63
  · rw [if_pos fits, if_pos (by omega)]
    rfl
  · rw [if_neg fits, if_neg (by omega)]
    rfl

theorem Carries.toValue (carries : Carries wire n) (type : ColumnType) :
    wire.toValue type = some (if n < 2 ^ 63 then .int64 (Int64.ofInt n)
      else .decimal (String.ofList (Text.integer n))) := by
  cases carries with
  | signed n =>
    rw [if_pos n.toInt_lt, Int64.ofInt_toInt]
    rfl
  | unsigned n =>
    have natural : Text.integer n.toNat = Text.digits n.toNat := by
      rw [Text.integer, if_neg (by omega), Int.natAbs_natCast]
    have limit : (n.toNat : Int) < 2 ^ 63 ↔ n.toNat < Nat.pow 2 63 := by
      rw [show Nat.pow 2 63 = 2 ^ 63 from rfl]
      omega
    rw [natural]
    simp only [limit]
    rfl

/-! ### What is sent back -/

theorem literalChars_int64 (low : -2 ^ 63 ≤ n) (high : n < 2 ^ 63) :
    Sql.literalChars (.int64 (Int64.ofInt n)) = Text.integer n := by
  rw [Sql.literalChars, Int64.toInt_ofInt_of_le low high]

/-- A numeral without sign is sent as it is. -/
theorem literalChars_decimal {cs : List Char} (digits : Sql.Digits cs) :
    Sql.literalChars (.decimal (String.ofList cs)) = cs := by
  have trimmed : Text.trim cs = cs := by
    apply Text.trim_of_visible
    intro c member
    apply Text.isVisible_of_isAlphanum
    rw [Char.isAlphanum, digits.digits c member, Bool.or_true]
  have numeral : Sql.isNumeral cs = true := by
    rw [Sql.isNumeral_iff]
    have derived := Sql.Numeral.mk .none (.whole digits) .none
    rwa [List.append_nil] at derived
  rw [Sql.literalChars, String.toList_ofList, trimmed, if_pos numeral]

/-- A number is not quoted. -/
theorem integer_ne_quote (n : Int) (cs : List Char) : Text.integer n ≠ Sql.quote cs := by
  have digits := Text.digits_digits n.natAbs
  rw [Text.integer]
  split
  · exact fun same => absurd (List.cons.inj same).1 (by decide)
  · intro same
    have mark := digits.digits '\'' (by simp [same, Sql.quote])
    exact absurd mark (by decide)

/-- What a number in binary is read as is sent back as the number. -/
theorem literalChars_number (low : -2 ^ 63 ≤ n) :
    Sql.literalChars (if n < 2 ^ 63 then .int64 (Int64.ofInt n)
      else .decimal (String.ofList (Text.integer n))) = Text.integer n := by
  split
  · next small => exact literalChars_int64 low small
  · next large =>
    have natural : Text.integer n = Text.digits n.natAbs := if_neg (by omega)
    rw [natural]
    exact literalChars_decimal (Text.digits_digits _)

/-- Every whole number from `-2 ^ 63` to `2 ^ 64 - 1` can be sent in binary. A column of whole
numbers reads its text as the same value, and as a value with the same literal, exactly if the
number is a signed one of 64 bits. The plain texts of the values are always the same. -/
theorem text_agrees_iff (whole : type ∈ ColumnType.integers) (low : -2 ^ 63 ≤ n)
    (high : n < 2 ^ 64) : (∃ wire, Carries wire n) ∧ ∀ wire, Carries wire n →
      ∃ text binary, (ofInteger n).toValue type = some text ∧ wire.toValue type = some binary ∧
        (text = binary ↔ n < 2 ^ 63) ∧ (Sql.literal text = Sql.literal binary ↔ n < 2 ^ 63) ∧
        text.text = binary.text := by
  refine ⟨exists_carries low high, fun wire carries => ?_⟩
  refine ⟨_, _, toValue_ofInteger whole, carries.toValue type, ?_⟩
  have literals := congrArg String.ofList (literalChars_number low)
  change Sql.literal _ = _ at literals
  rw [literals]
  by_cases small : n < 2 ^ 63
  · rw [if_pos ⟨low, small⟩, if_pos small]
    have literal := congrArg String.ofList (literalChars_int64 low small)
    exact ⟨iff_of_true rfl small, iff_of_true literal small, rfl⟩
  · rw [if_neg fun fits => small fits.2, if_neg small]
    refine ⟨iff_of_false (fun same => by cases same) small, iff_of_false ?_ small, rfl⟩
    intro same
    have quoted : Sql.literalChars (.string (String.ofList (Text.integer n))) = Text.integer n :=
      String.ofList_injective same
    exact integer_ne_quote n _ quoted.symm

/-- The greatest signed number is read as the same value, the number behind it is not. -/
theorem text_agrees_iff_greatest :
    ColumnType.longLong ∈ ColumnType.integers ∧
      (ofInteger 9223372036854775807).toValue .longLong =
        (Wire.uint 9223372036854775807).toValue .longLong ∧
      (ofInteger 9223372036854775808).toValue .longLong ≠
        (Wire.uint 9223372036854775808).toValue .longLong := by
  have whole : ColumnType.longLong ∈ ColumnType.integers := by decide
  refine ⟨whole, ?_, ?_⟩
  · have carries := Carries.unsigned 9223372036854775807
    obtain ⟨text, binary, read, read', same, -⟩ :=
      (text_agrees_iff whole (by decide) (by decide)).2 _ carries
    exact read.trans ((congrArg some (same.mpr (by decide))).trans read'.symm)
  · have carries := Carries.unsigned 9223372036854775808
    obtain ⟨text, binary, read, read', same, -⟩ :=
      (text_agrees_iff whole (by decide) (by decide)).2 _ carries
    intro alike
    exact absurd (same.mp (Option.some.inj (read.symm.trans (alike.trans read')))) (by decide)

/-- The greatest unsigned number is read as a string or as a decimal. -/
theorem unsigned_text_is_a_string :
    ¬ ∀ (type : ColumnType) (n : Int) (wire : Wire), type ∈ ColumnType.integers → -2 ^ 63 ≤ n →
      n < 2 ^ 64 → Carries wire n → (ofInteger n).toValue type = wire.toValue type ∧
        ((ofInteger n).toValue type).map Sql.literal = (wire.toValue type).map Sql.literal := by
  intro agree
  have carries : Carries (.uint 18446744073709551615) 18446744073709551615 := .unsigned _
  have same := (agree .longLong _ _ (by decide) (by decide) (by decide) carries).1
  rw [toValue_ofInteger (by decide), carries.toValue, if_neg (by decide),
    if_neg (by decide)] at same
  cases same

end Wire

end SqlProbe.Mysql
