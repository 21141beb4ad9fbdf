import SqlProbe.Proofs.Sql.Numerals
import SqlProbe.Proofs.Sql.Scan

/-!
# What literals look like to the scanner

Every literal may stand where a placeholder stood. An unquoted one is a run of bare characters in
which dashes stand before bare characters only; a quoted one opens a quote, keeps to it and closes
it. So either passes through code back to code, and its first character completes nothing that the
text before it has begun.
-/

namespace SqlProbe.Sql

open Scan

/-- A text that may stand where a placeholder stood. -/
structure Insertable (cs : List Char) : Prop where
  /-- It completes neither the mark of a block comment nor that of a line comment. -/
  head : ∃ c tail, cs = c :: tail ∧ c ≠ '*' ∧ Text.isBlank c = false
  passes : ∀ rest, Passes rest code cs code
  /-- A dash in front of it may be the second of a pair. -/
  passes_dash : cs.head? = some '-' → ∀ rest, Passes rest secondDash cs code

theorem Plain.insertable {cs : List Char} (plain : Plain cs) (nonempty : cs ≠ []) :
    Insertable cs := by
  refine ⟨?_, plain.passes, plain.passes_secondDash⟩
  cases plain with
  | nil => contradiction
  | bare bare => exact ⟨_, _, rfl, ne_of_isBare bare (by decide), isBlank_of_isBare bare⟩
  | dash => exact ⟨'-', _, rfl, by decide, by decide⟩

/-- Bare characters may have a sign in front of them. -/
theorem plain_signed {sign front rest : List Char} (signs : Numeral.Sign sign)
    (nonempty : front ≠ []) (bare : ∀ c ∈ front, isBare c = true) (tail : Plain rest) :
    Plain (sign ++ (front ++ rest)) := by
  obtain ⟨c, cs, rfl⟩ := List.exists_cons_of_ne_nil nonempty
  have behind : Plain (c :: cs ++ rest) := (plain_of_isBare bare).append tail
  cases signs with
  | none => exact behind
  | plus => exact .bare rfl behind
  | minus => exact .dash (bare c (List.mem_cons_self ..)) behind

theorem insertable_signed {sign front : List Char} (signs : Numeral.Sign sign)
    (nonempty : front ≠ []) (bare : ∀ c ∈ front, isBare c = true) : Insertable (sign ++ front) := by
  have plain := plain_signed signs nonempty bare .nil
  rw [List.append_nil] at plain
  exact plain.insertable fun empty => nonempty (List.append_eq_nil_iff.mp empty).2

/-! ### Numbers -/

theorem isBare_of_mem_digits {n : Nat} {c : Char} (member : c ∈ Text.digits n) : isBare c = true :=
  isBare_of_isDigit (Nat.isDigit_of_mem_toDigits (by decide) (by decide) member)

theorem insertable_integer (n : Int) : Insertable (Text.integer n) := by
  have signed {sign : List Char} (signs : Numeral.Sign sign) :
      Insertable (sign ++ Text.digits n.natAbs) :=
    insertable_signed signs Nat.toDigits_ne_nil fun _ => isBare_of_mem_digits
  unfold Text.integer
  split
  · exact signed .minus
  · exact signed .none

theorem positional_ne_nil (d : Number.Decimal) : d.positional ≠ [] := by
  have nonempty : d.digits ≠ [] := Nat.toDigits_ne_nil
  unfold Number.Decimal.positional
  dsimp only
  split_ifs
  · simp [nonempty]
  · simp
  · simp

theorem isBare_of_mem_positional {d : Number.Decimal} {c : Char} (member : c ∈ d.positional) :
    isBare c = true := by
  have digit (member : c ∈ d.digits) : isBare c = true := isBare_of_mem_digits member
  have zero {n : Nat} (member : c ∈ List.replicate n '0') : isBare c = true := by
    rw [List.eq_of_mem_replicate member]
    decide
  unfold Number.Decimal.positional at member
  dsimp only at member
  split_ifs at member
  · exact (List.mem_append.mp member).elim digit zero
  · rcases List.mem_append.mp member with whole | member
    · exact digit (List.mem_of_mem_take whole)
    · rcases List.mem_cons.mp member with rfl | fraction
      · decide
      · exact digit (List.mem_of_mem_drop fraction)
  · rcases List.mem_cons.mp member with rfl | member
    · decide
    · rcases List.mem_cons.mp member with rfl | member
      · decide
      · exact (List.mem_append.mp member).elim zero digit

theorem insertable_finite {format : Number.Format} {x : Number.Binary format}
    (finite : x.isFinite = true) : Insertable x.text := by
  cases x with
  | nan => contradiction
  | infinite => contradiction
  | finite negative m q canonical =>
    have signs : Numeral.Sign (if negative then ['-'] else []) := by
      cases negative with
      | false => exact .none
      | true => exact .minus
    exact insertable_signed signs (positional_ne_nil _) fun _ => isBare_of_mem_positional

theorem Digits.bare_characters {cs : List Char} (digits : Digits cs) : ∀ c ∈ cs, isBare c = true :=
  fun c member => isBare_of_isDigit (digits.digits c member)

theorem Numeral.Mantissa.bare_characters {cs : List Char} (mantissa : Numeral.Mantissa cs) :
    ∀ c ∈ cs, isBare c = true := by
  intro c member
  rcases mantissa.isDigit_or_point c member with digit | rfl
  · exact isBare_of_isDigit digit
  · decide

/-- The only dash that an exponent may have stands before a digit. -/
theorem Numeral.Exponent.plain {cs : List Char} (exponent : Numeral.Exponent cs) : Plain cs := by
  cases exponent with
  | none => exact .nil
  | @some mark _ _ letter signs digits =>
    have bare : isBare mark = true := by rcases letter with rfl | rfl <;> decide
    have behind := plain_signed signs digits.nonempty digits.bare_characters .nil
    rw [List.append_nil] at behind
    exact .bare bare behind

theorem Numeral.plain {cs : List Char} (numeral : Numeral cs) : Plain cs := by
  obtain ⟨signs, derived, behind⟩ := numeral
  exact plain_signed signs derived.nonempty derived.bare_characters behind.plain

theorem Numeral.insertable {cs : List Char} (numeral : Numeral cs) : Insertable cs := by
  refine numeral.plain.insertable ?_
  rintro rfl
  exact absurd numeral (by decide)

/-! ### Quoted text -/

/-- A text that stays inside its quotes may be quoted. -/
theorem insertable_quoted {body : List Char}
    (inside : ∀ rest, Passes rest (quoted .single) body (quoted .single)) :
    Insertable ('\'' :: (body ++ ['\''])) := by
  refine ⟨⟨'\'', _, rfl, by decide, by decide⟩, ?_, fun dash => by simp at dash⟩
  intro rest
  refine .cons rfl ((inside (['\''] ++ rest)).append ?_)
  exact .cons rfl (.nil code)

theorem insertable_quote (cs : List Char) : Insertable (quote cs) := by
  refine insertable_quoted (fun rest => ?_)
  induction cs with
  | nil => exact .nil _
  | cons c cs ih =>
    rw [escape_cons]
    refine Passes.append ?_ ih
    unfold escapeChar
    split_ifs with backslash mark nul
    · exact .cons rfl (.cons rfl (.nil _))
    · exact .cons rfl (.cons rfl (.nil _))
    · exact .cons rfl (.cons rfl (.nil _))
    · refine passes_of_stay _ (fun d member => ?_)
      obtain rfl := List.mem_singleton.mp member
      exact ⟨rfl, fun _ => by simp [next, backslash, mark, Quote.char]⟩

/-- A character of dates and times and of hexadecimal digits. -/
def isPrinted (c : Char) : Bool := isBare c || c == '-' || c == ':' || c == ' '

theorem insertable_printed {cs : List Char} (printed : ∀ c ∈ cs, isPrinted c = true) :
    Insertable ('\'' :: (cs ++ ['\''])) := by
  refine insertable_quoted (fun rest => passes_of_stay rest (fun c member => ⟨rfl, fun _ => ?_⟩))
  have backslash : c ≠ '\\' := fun same => by subst same; exact absurd (printed _ member) (by decide)
  have mark : c ≠ '\'' := fun same => by subst same; exact absurd (printed _ member) (by decide)
  simp [next, backslash, mark, Quote.char]

/-- The hexadecimal form of bytes is a quoted text behind a letter. -/
theorem insertable_bytes (bytes : List UInt8) :
    Insertable ('X' :: '\'' :: (bytes.flatMap Text.hexByte ++ ['\''])) := by
  have digit : ∀ n < 16, isPrinted (Nat.digitChar n) = true := by decide
  have printed : ∀ c ∈ bytes.flatMap Text.hexByte, isPrinted c = true := by
    intro c member
    obtain ⟨byte, _, member⟩ := List.mem_flatMap.mp member
    simp only [Text.hexByte, List.mem_cons, List.not_mem_nil, or_false] at member
    rcases member with rfl | rfl
    · exact digit _ (by have := byte.toNat_lt; omega)
    · exact digit _ (by omega)
  refine ⟨⟨'X', _, rfl, by decide, by decide⟩, ?_, fun dash => by simp at dash⟩
  intro rest
  exact .cons rfl ((insertable_printed printed).passes rest)

/-! ### Dates and times -/

theorem isPrinted_of_isBare {c : Char} (bare : isBare c = true) : isPrinted c = true := by
  simp [isPrinted, bare]

theorem isPrinted_of_mem_padded {width n : Nat} {c : Char} (member : c ∈ Text.padded width n) :
    isPrinted c = true := by
  rcases List.mem_append.mp member with zero | digit
  · rw [List.eq_of_mem_replicate zero]
    decide
  · exact isPrinted_of_isBare (isBare_of_mem_digits digit)

theorem isPrinted_of_mem_date {date : Calendar.Date} {c : Char} (member : c ∈ date.text) :
    isPrinted c = true := by
  have year {c : Char} (member : c ∈ Calendar.Date.yearText date.year) : isPrinted c = true := by
    unfold Calendar.Date.yearText at member
    split at member
    · exact isPrinted_of_mem_padded member
    · rcases List.mem_cons.mp member with rfl | member
      · split <;> decide
      · exact isPrinted_of_mem_padded member
  simp only [Calendar.Date.text, List.append_assoc, List.cons_append, List.mem_append,
    List.mem_cons] at member
  rcases member with member | rfl | member | rfl | member
  · exact year member
  · decide
  · exact isPrinted_of_mem_padded member
  · decide
  · exact isPrinted_of_mem_padded member

theorem isPrinted_of_mem_fraction {nanos : Nat} {c : Char}
    (member : c ∈ Calendar.TimeOfDay.fractionText nanos) : isPrinted c = true := by
  have pointed {width n : Nat} (member : c ∈ '.' :: Text.padded width n) : isPrinted c = true := by
    rcases List.mem_cons.mp member with rfl | member
    · decide
    · exact isPrinted_of_mem_padded member
  unfold Calendar.TimeOfDay.fractionText at member
  split_ifs at member
  · exact absurd member List.not_mem_nil
  · exact pointed member
  · exact pointed member
  · exact pointed member

theorem isPrinted_of_mem_time {time : Calendar.TimeOfDay} {c : Char} (member : c ∈ time.text) :
    isPrinted c = true := by
  simp only [Calendar.TimeOfDay.text, List.append_assoc, List.cons_append, List.mem_append,
    List.mem_cons] at member
  rcases member with member | rfl | member | rfl | member | member
  · exact isPrinted_of_mem_padded member
  · decide
  · exact isPrinted_of_mem_padded member
  · decide
  · exact isPrinted_of_mem_padded member
  · exact isPrinted_of_mem_fraction member

theorem isPrinted_of_mem_dateTime {t : Calendar.DateTime} {c : Char} (member : c ∈ t.text) :
    isPrinted c = true := by
  rcases List.mem_append.mp member with member | member
  · exact isPrinted_of_mem_date member
  · rcases List.mem_cons.mp member with rfl | member
    · decide
    · exact isPrinted_of_mem_time member

/-- Whatever a value is, its literal may stand where a placeholder stood. -/
theorem insertable_literalChars (v : Value) : Insertable (literalChars v) := by
  have number {format : Number.Format} (x : Number.Binary format) :
      Insertable (if x.isFinite then x.text else quote x.text) := by
    split
    · next finite => exact insertable_finite finite
    · exact insertable_quote _
  cases v with
  | null =>
    have bare : (literalChars .null).all isBare = true := by decide
    exact insertable_signed .none (List.cons_ne_nil _ _) (List.all_eq_true.mp bare)
  | bool b =>
    have bare : (literalChars (.bool b)).all isBare = true := by cases b <;> decide
    exact insertable_signed .none (List.cons_ne_nil _ _) (List.all_eq_true.mp bare)
  | int32 n => exact insertable_integer _
  | int64 n => exact insertable_integer _
  | float32 x => exact number x
  | float64 x => exact number x
  | decimal s =>
    change Insertable (if isNumeral (Text.trim s.toList) then Text.trim s.toList else quote s.toList)
    split
    · next numeral => exact (isNumeral_iff.mp numeral).insertable
    · exact insertable_quote _
  | string s => exact insertable_quote _
  | bytes b => exact insertable_bytes b
  | date d => exact insertable_printed (fun _ => isPrinted_of_mem_date)
  | time t => exact insertable_printed (fun _ => isPrinted_of_mem_time)
  | dateTime t => exact insertable_printed (fun _ => isPrinted_of_mem_dateTime)
  | instant t => exact insertable_printed (fun _ => isPrinted_of_mem_dateTime)

end SqlProbe.Sql
