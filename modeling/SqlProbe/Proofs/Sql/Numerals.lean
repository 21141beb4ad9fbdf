import Mathlib.Data.List.TakeWhile
import SqlProbe.Proofs.Text.Cut
import SqlProbe.Sql.Literal

/-!
# The grammar of numerals

A numeral is a sign, a mantissa and an exponent, of which only the mantissa has to be there. The
check of numerals cuts a text at the first letter of an exponent and at the first point before it;
the reader of numbers takes it apart at the first characters that are no digits. Either accepts what
the grammar derives and nothing else.
-/

namespace SqlProbe.Sql

/-- Digits, and at least one. -/
structure Digits (cs : List Char) : Prop where
  nonempty : cs ≠ []
  digits : ∀ c ∈ cs, c.isDigit = true

namespace Numeral

/-- A sign, or none. -/
inductive Sign : List Char → Prop
  | none : Sign []
  | plus : Sign ['+']
  | minus : Sign ['-']

/-- Digits with a point behind or among them, or without one, or only behind a point. -/
inductive Mantissa : List Char → Prop
  | whole {ds : List Char} (whole : Digits ds) : Mantissa ds
  | point {ds fs : List Char} (whole : Digits ds) (fraction : ∀ c ∈ fs, c.isDigit = true) :
      Mantissa (ds ++ '.' :: fs)
  | fraction {fs : List Char} (fraction : Digits fs) : Mantissa ('.' :: fs)

/-- The letter of an exponent with digits behind it, which may have a sign, or nothing. -/
inductive Exponent : List Char → Prop
  | none : Exponent []
  | some {mark : Char} {sign ds : List Char} (letter : mark = 'e' ∨ mark = 'E')
      (signs : Sign sign) (digits : Digits ds) : Exponent (mark :: (sign ++ ds))

end Numeral

open Numeral

/-- A text that is a number. -/
inductive Numeral : List Char → Prop
  | mk {sign mantissa exponent : List Char} (signs : Sign sign) (derived : Mantissa mantissa)
      (behind : Exponent exponent) : Numeral (sign ++ (mantissa ++ exponent))

/-! ### Digits -/

theorem digits_iff {cs : List Char} : (!cs.isEmpty && cs.all Char.isDigit) = true ↔ Digits cs := by
  simp only [Bool.and_eq_true, Bool.not_eq_true', List.isEmpty_eq_false_iff, List.all_eq_true]
  exact ⟨fun ⟨nonempty, digits⟩ => ⟨nonempty, digits⟩,
    fun digits => ⟨digits.nonempty, digits.digits⟩⟩

theorem ne_of_isDigit {c d : Char} (digit : c.isDigit = true) (other : d.isDigit = false) :
    c ≠ d := by
  rintro rfl
  exact absurd (digit.symm.trans other) (by decide)

/-! ### Signs -/

theorem dropSign_append {sign rest : List Char} (signs : Sign sign)
    (bare : ∀ c ∈ rest.head?, c ≠ '+' ∧ c ≠ '-') : dropSign (sign ++ rest) = rest := by
  cases signs with
  | plus => rfl
  | minus => rfl
  | none =>
    cases rest with
    | nil => rfl
    | cons c cs =>
      obtain ⟨plus, minus⟩ := bare c rfl
      change dropSign (c :: cs) = c :: cs
      unfold dropSign
      split
      · next same => exact absurd (List.cons.inj same).1 plus
      · next same => exact absurd (List.cons.inj same).1 minus
      · rfl

theorem exists_sign (cs : List Char) : ∃ sign, Sign sign ∧ cs = sign ++ dropSign cs := by
  unfold dropSign
  split
  · exact ⟨['+'], .plus, rfl⟩
  · exact ⟨['-'], .minus, rfl⟩
  · exact ⟨[], .none, rfl⟩

/-- Digits begin with no sign. -/
theorem Digits.bare {ds : List Char} (digits : Digits ds) (behind : List Char) :
    ∀ c ∈ (ds ++ behind).head?, c ≠ '+' ∧ c ≠ '-' := by
  obtain ⟨d, tail, rfl⟩ := List.exists_cons_of_ne_nil digits.nonempty
  rintro c ⟨⟩
  have digit := digits.digits d (List.mem_cons_self ..)
  exact ⟨ne_of_isDigit digit (by decide), ne_of_isDigit digit (by decide)⟩

/-! ### Exponents -/

/-- What is cut off with digits behind its letter and its sign is an exponent. -/
theorem exists_exponent {cs : List Char} (digits : ∀ ds ∈ (cutExponent cs).2, Digits ds) :
    ∃ exponent, Exponent exponent ∧ cs = (cutExponent cs).1 ++ exponent := by
  have parts := List.takeWhile_append_dropWhile (p := fun c => c != 'e' && c != 'E') (l := cs)
  have stop := List.head?_dropWhile_not (fun c => c != 'e' && c != 'E') cs
  unfold cutExponent at digits ⊢
  rw [List.span_eq_takeWhile_dropWhile] at digits ⊢
  generalize cs.dropWhile (fun c => c != 'e' && c != 'E') = behind at digits parts stop ⊢
  cases behind with
  | nil => exact ⟨[], .none, parts.symm⟩
  | cons mark tail =>
    have letter : mark = 'e' ∨ mark = 'E' := by
      rw [List.head?_cons] at stop
      simpa [imp_iff_not_or] using stop
    obtain ⟨sign, signs, cut⟩ := exists_sign tail
    refine ⟨mark :: tail, ?_, parts.symm⟩
    rw [cut]
    exact .some letter signs (digits _ rfl)

/-- An exponent is cut off where it stands, from a text without its letters. -/
theorem cutExponent_append {mantissa exponent : List Char}
    (free : ∀ c ∈ mantissa, c ≠ 'e' ∧ c ≠ 'E') (derived : Exponent exponent) :
    (cutExponent (mantissa ++ exponent)).1 = mantissa ∧
      ∀ ds ∈ (cutExponent (mantissa ++ exponent)).2, Digits ds := by
  have inside : ∀ c ∈ mantissa, (c != 'e' && c != 'E') = true :=
    fun c member => by simp [free c member]
  have stop : ∀ c ∈ exponent.head?, (c != 'e' && c != 'E') = false := by
    cases derived with
    | none => simp
    | some letter =>
      rintro c ⟨⟩
      rcases letter with rfl | rfl <;> decide
  unfold cutExponent
  rw [Text.span_append inside stop]
  cases derived with
  | none => exact ⟨rfl, by simp⟩
  | @some _ _ ds _ signs digits =>
    refine ⟨rfl, ?_⟩
    have bare := digits.bare []
    rw [List.append_nil] at bare
    rintro _ ⟨⟩
    rwa [dropSign_append signs bare]

/-! ### Mantissas -/

/-- A mantissa begins with a digit or with its point. -/
theorem Numeral.Mantissa.bare {cs : List Char} (mantissa : Mantissa cs) (behind : List Char) :
    ∀ c ∈ (cs ++ behind).head?, c ≠ '+' ∧ c ≠ '-' := by
  cases mantissa with
  | whole whole => exact whole.bare behind
  | point whole =>
    rw [List.append_assoc]
    exact whole.bare _
  | fraction =>
    rintro c ⟨⟩
    decide

theorem Numeral.Mantissa.nonempty {cs : List Char} (mantissa : Mantissa cs) : cs ≠ [] := by
  cases mantissa with
  | whole whole => exact whole.nonempty
  | point => simp
  | fraction => simp

/-- A mantissa is made of digits and points. -/
theorem Numeral.Mantissa.isDigit_or_point {cs : List Char} (mantissa : Mantissa cs) :
    ∀ c ∈ cs, c.isDigit = true ∨ c = '.' := by
  cases mantissa with
  | whole whole => exact fun c member => .inl (whole.digits c member)
  | point whole fraction =>
    intro c member
    rcases List.mem_append.mp member with member | member
    · exact .inl (whole.digits c member)
    · exact (List.mem_cons.mp member).symm.imp_left (fraction c)
  | fraction fraction =>
    exact fun c member => (List.mem_cons.mp member).symm.imp_left (fraction.digits c)

theorem Numeral.Mantissa.free {cs : List Char} (mantissa : Mantissa cs) :
    ∀ c ∈ cs, c ≠ 'e' ∧ c ≠ 'E' := by
  intro c member
  rcases mantissa.isDigit_or_point c member with digit | rfl
  · exact ⟨ne_of_isDigit digit (by decide), ne_of_isDigit digit (by decide)⟩
  · decide

theorem isMantissa_iff_of_cut {cs whole fraction : List Char}
    (cut : (Text.cutAt? '.' cs).getD (cs, []) = (whole, fraction)) :
    isMantissa cs = true ↔ (whole ≠ [] ∨ fraction ≠ []) ∧ (∀ c ∈ whole, c.isDigit = true) ∧
      ∀ c ∈ fraction, c.isDigit = true := by
  simp [isMantissa, cut, and_assoc]

theorem isMantissa_point (ds : List Char) {fs : List Char} (whole : ∀ c ∈ ds, c.isDigit = true)
    (fraction : ∀ c ∈ fs, c.isDigit = true) (some : ds ≠ [] ∨ fs ≠ []) :
    isMantissa (ds ++ '.' :: fs) = true := by
  have free : '.' ∉ ds := fun member => absurd (whole _ member) (by decide)
  refine (isMantissa_iff_of_cut ?_).mpr ⟨some, whole, fraction⟩
  rw [Text.cutAt?_append_cons free, Option.getD_some]

theorem isMantissa_iff {cs : List Char} : isMantissa cs = true ↔ Mantissa cs := by
  constructor
  · intro accepted
    cases found : Text.cutAt? '.' cs with
    | none =>
      have cut : (Text.cutAt? '.' cs).getD (cs, []) = (cs, []) := by rw [found, Option.getD_none]
      obtain ⟨some, digits, -⟩ := (isMantissa_iff_of_cut cut).mp accepted
      exact .whole ⟨some.resolve_right fun none => none rfl, digits⟩
    | some parts =>
      obtain ⟨whole, fraction⟩ := parts
      have cut : (Text.cutAt? '.' cs).getD (cs, []) = (whole, fraction) := by
        rw [found, Option.getD_some]
      obtain ⟨some, before, behind⟩ := (isMantissa_iff_of_cut cut).mp accepted
      rw [Text.eq_append_of_cutAt? found]
      by_cases empty : whole = []
      · subst empty
        exact .fraction ⟨some.resolve_left fun none => none rfl, behind⟩
      · exact .point ⟨empty, before⟩ behind
  · intro mantissa
    cases mantissa with
    | whole whole =>
      have free : '.' ∉ cs := fun member => absurd (whole.digits _ member) (by decide)
      have cut : (Text.cutAt? '.' cs).getD (cs, []) = (cs, []) := by
        rw [Text.cutAt?_eq_none free, Option.getD_none]
      exact (isMantissa_iff_of_cut cut).mpr ⟨.inl whole.nonempty, whole.digits, by simp⟩
    | point whole fraction => exact isMantissa_point _ whole.digits fraction (.inl whole.nonempty)
    | fraction fraction =>
      exact isMantissa_point [] (by simp) fraction.digits (.inr fraction.nonempty)

/-! ### Numerals -/

theorem isNumeral_iff_of_cut {cs : List Char} : isNumeral cs = true ↔
    Mantissa (cutExponent (dropSign cs)).1 ∧ ∀ ds ∈ (cutExponent (dropSign cs)).2, Digits ds := by
  rw [isNumeral, Bool.and_eq_true, isMantissa_iff, Option.all_eq_true]
  simp only [digits_iff]
  rfl

/-- The check accepts a text if and only if the grammar derives it. -/
theorem isNumeral_iff {cs : List Char} : isNumeral cs = true ↔ Numeral cs := by
  constructor
  · intro accepted
    obtain ⟨derived, digits⟩ := isNumeral_iff_of_cut.mp accepted
    obtain ⟨sign, signs, parts⟩ := exists_sign cs
    obtain ⟨exponent, behind, unsigned⟩ := exists_exponent digits
    rw [parts, unsigned]
    exact .mk signs derived behind
  · rintro ⟨signs, derived, behind⟩
    obtain ⟨cut, digits⟩ := cutExponent_append derived.free behind
    rw [isNumeral_iff_of_cut, dropSign_append signs (derived.bare _), cut]
    exact ⟨derived, digits⟩

instance (cs : List Char) : Decidable (Numeral cs) := decidable_of_iff _ isNumeral_iff

/-! ### The reader of numbers -/

theorem digits_of_digits? {cs : List Char} (some : (Text.digits? cs).isSome = true) :
    Digits cs := by
  unfold Text.digits? at some
  split at some
  · next digits => exact ⟨digits.1, List.all_eq_true.mp digits.2⟩
  · contradiction

theorem Digits.digits? {cs : List Char} (digits : Digits cs) :
    (Text.digits? cs).isSome = true := by
  rw [Text.digits?, if_pos ⟨digits.nonempty, List.all_eq_true.mpr digits.digits⟩]
  rfl

theorem spanDigits_append (cs : List Char) :
    (Number.spanDigits cs).1 ++ (Number.spanDigits cs).2 = cs := by
  rw [Number.spanDigits, List.span_eq_takeWhile_dropWhile]
  exact List.takeWhile_append_dropWhile

theorem isDigit_of_mem_spanDigits {cs : List Char} {c : Char}
    (member : c ∈ (Number.spanDigits cs).1) : c.isDigit = true := by
  rw [Number.spanDigits, List.span_eq_takeWhile_dropWhile] at member
  exact List.mem_takeWhile_imp member

theorem spanDigits_eq {ds rest : List Char} (digits : ∀ c ∈ ds, c.isDigit = true)
    (stop : ∀ c ∈ rest.head?, c.isDigit = false) : Number.spanDigits (ds ++ rest) = (ds, rest) :=
  Text.span_append digits stop

/-- An exponent begins with neither a digit nor a point. -/
theorem Numeral.Exponent.stop {cs : List Char} (exponent : Exponent cs) :
    ∀ c ∈ cs.head?, c.isDigit = false ∧ c ≠ '.' := by
  cases exponent with
  | none => simp
  | some letter =>
    rintro c ⟨⟩
    rcases letter with rfl | rfl <;> decide

theorem isSome_signed (cs : List Char) :
    (Number.exponent?.signed cs).isSome = (Text.digits? (dropSign cs)).isSome := by
  unfold Number.exponent?.signed dropSign
  split <;> simp only [bind_pure_comp, Option.map_eq_map, Option.isSome_map]

theorem exponent?_isSome_iff {cs : List Char} :
    (Number.exponent? cs).isSome = true ↔ Exponent cs := by
  constructor
  · intro some
    unfold Number.exponent? at some
    split at some
    · exact .none
    · next mark tail =>
      split at some
      · next letter =>
        obtain ⟨sign, signs, parts⟩ := exists_sign tail
        rw [isSome_signed] at some
        rw [parts]
        exact .some letter signs (digits_of_digits? some)
      · contradiction
  · intro exponent
    cases exponent with
    | none => rfl
    | some letter signs digits =>
      have bare := digits.bare []
      rw [List.append_nil] at bare
      rw [Number.exponent?, if_pos letter, isSome_signed, dropSign_append signs bare]
      exact digits.digits?

theorem ofText?_point (ds : List Char) {fs exponent : List Char}
    (whole : ∀ c ∈ ds, c.isDigit = true) (fraction : ∀ c ∈ fs, c.isDigit = true)
    (some : ds ≠ [] ∨ fs ≠ []) (derived : Exponent exponent) :
    (Number.Decimal.ofText? (ds ++ '.' :: (fs ++ exponent))).isSome = true := by
  have first : Number.spanDigits (ds ++ '.' :: (fs ++ exponent)) = (ds, '.' :: (fs ++ exponent)) :=
    spanDigits_eq whole (by simp)
  have second := spanDigits_eq fraction fun c member => (derived.stop c member).1
  have nonempty : ¬ (ds = [] ∧ fs = []) := fun empty => some.elim (· empty.1) (· empty.2)
  simp only [Number.Decimal.ofText?, first, second, nonempty, ↓reduceIte, Option.isSome_map,
    exponent?_isSome_iff, derived]

theorem ofText?_whole {ds exponent : List Char} (whole : Digits ds) (derived : Exponent exponent) :
    (Number.Decimal.ofText? (ds ++ exponent)).isSome = true := by
  have first := spanDigits_eq whole.digits fun c member => (derived.stop c member).1
  have nonempty : ¬ (ds = [] ∧ ([] : List Char) = []) := fun empty => whole.nonempty empty.1
  unfold Number.Decimal.ofText?
  rw [first]
  dsimp only
  split
  · next point => exact absurd rfl (derived.stop '.' rfl).2
  · rw [if_neg nonempty, Option.isSome_map, exponent?_isSome_iff]
    exact derived

/-- The mantissa and the exponent of what is read as a number without sign. -/
theorem exists_mantissa {cs : List Char} (some : (Number.Decimal.ofText? cs).isSome = true) :
    ∃ mantissa exponent, Mantissa mantissa ∧ Exponent exponent ∧ cs = mantissa ++ exponent := by
  have whole : ∀ c ∈ (Number.spanDigits cs).1, c.isDigit = true :=
    fun _ => isDigit_of_mem_spanDigits
  have parts := spanDigits_append cs
  unfold Number.Decimal.ofText? at some
  dsimp only at some
  generalize Number.spanDigits cs = spanned at whole parts some
  obtain ⟨first, behind⟩ := spanned
  dsimp only at whole parts some
  subst parts
  split at some
  · next tail =>
    have fraction : ∀ c ∈ (Number.spanDigits tail).1, c.isDigit = true :=
      fun _ => isDigit_of_mem_spanDigits
    have parts := spanDigits_append tail
    split at some
    · contradiction
    · next nonempty =>
      rw [Option.isSome_map, exponent?_isSome_iff] at some
      refine ⟨first ++ '.' :: (Number.spanDigits tail).1, _, ?_, some, ?_⟩
      · by_cases empty : first = []
        · subst empty
          exact .fraction ⟨fun none => nonempty ⟨rfl, none⟩, fraction⟩
        · exact .point ⟨empty, whole⟩ fraction
      · rw [List.append_assoc, List.cons_append, parts]
  · split at some
    · contradiction
    · next nonempty =>
      rw [Option.isSome_map, exponent?_isSome_iff] at some
      exact ⟨first, _, .whole ⟨fun empty => nonempty ⟨empty, rfl⟩, whole⟩, some, rfl⟩

theorem ofText?_of_mantissa {mantissa exponent : List Char} (derived : Mantissa mantissa)
    (behind : Exponent exponent) :
    (Number.Decimal.ofText? (mantissa ++ exponent)).isSome = true := by
  cases derived with
  | whole whole => exact ofText?_whole whole behind
  | point whole fraction =>
    rw [List.append_assoc]
    exact ofText?_point _ whole.digits fraction (.inl whole.nonempty) behind
  | fraction fraction =>
    exact ofText?_point [] (by simp) fraction.digits (.inr fraction.nonempty) behind

/-- The check accepts a text if and only if what stands behind its sign is read as a number. -/
theorem isNumeral_eq_isSome (cs : List Char) :
    isNumeral cs = (Number.Decimal.ofText? (dropSign cs)).isSome := by
  rw [Bool.eq_iff_iff, isNumeral_iff]
  constructor
  · rintro ⟨signs, derived, behind⟩
    rw [dropSign_append signs (derived.bare _)]
    exact ofText?_of_mantissa derived behind
  · intro read
    obtain ⟨sign, signs, parts⟩ := exists_sign cs
    obtain ⟨mantissa, exponent, derived, behind, unsigned⟩ := exists_mantissa read
    rw [parts, unsigned]
    exact .mk signs derived behind

end SqlProbe.Sql
