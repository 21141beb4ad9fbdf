import Mathlib.Algebra.Ring.Nat
import SqlProbe.Mysql.Wire
import SqlProbe.Proofs.Text.Numeral

/-!
# Spans of time on the wire

A span of time comes as days, hours, minutes, seconds and microseconds under a sign, and is read as
a text in which the days are counted as hours. The hours are counted in a word of 32 bits. A span
whose hours fit one is read exactly; the reading of any other breaks off.
-/

namespace SqlProbe.Mysql.Wire

open Text (Writes)

/-- A text of a span of time: its hours, minutes and seconds and the microseconds behind a point,
all of them behind a minus sign where it is negative. -/
inductive SpanText : Bool → Nat → Nat → Nat → Nat → List Char → Prop
  | forward {hours minutes seconds micros : Nat} {hs ms ss us : List Char}
    (whole : Writes 2 hours hs) (minute : Writes 2 minutes ms) (second : Writes 2 seconds ss)
    (fraction : Writes 6 micros us) : SpanText false hours minutes seconds micros
      (hs ++ ':' :: (ms ++ ':' :: (ss ++ '.' :: us)))
  | backward {hours minutes seconds micros : Nat} {cs : List Char}
    (span : SpanText false hours minutes seconds micros cs) :
    SpanText true hours minutes seconds micros ('-' :: cs)

variable {negative negative' : Bool}
  {hours minutes seconds micros hours' minutes' seconds' micros' : Nat} {cs cs' : List Char}

theorem SpanText.bare (span : SpanText false hours minutes seconds micros cs) :
    cs.head? ≠ some '-' := by
  cases span with
  | forward whole => exact fun minus => (whole.digits.bare _ '-' minus).2 rfl

theorem SpanText.forward_unique (span : SpanText false hours minutes seconds micros cs)
    (other : SpanText false hours' minutes' seconds' micros' cs') (same : cs = cs') :
    hours = hours' ∧ minutes = minutes' ∧ seconds = seconds' ∧ micros = micros' := by
  cases span with
  | forward whole minute second fraction =>
    cases other with
    | forward whole' minute' second' fraction' =>
      obtain ⟨sameHours, same⟩ := whole.append_cons_inj whole' (by decide) same
      obtain ⟨sameMinutes, same⟩ := minute.append_cons_inj minute' (by decide) same
      obtain ⟨sameSeconds, same⟩ := second.append_cons_inj second' (by decide) same
      subst same
      exact ⟨sameHours, sameMinutes, sameSeconds, fraction.value.symm.trans fraction'.value⟩

/-- A text is that of one span only. -/
theorem SpanText.unique (span : SpanText negative hours minutes seconds micros cs)
    (other : SpanText negative' hours' minutes' seconds' micros' cs') (same : cs = cs') :
    negative = negative' ∧ hours = hours' ∧ minutes = minutes' ∧ seconds = seconds' ∧
      micros = micros' := by
  cases span with
  | forward whole minute second fraction =>
    have span := SpanText.forward whole minute second fraction
    cases other with
    | forward whole' minute' second' fraction' =>
      exact ⟨rfl, span.forward_unique (.forward whole' minute' second' fraction') same⟩
    | backward => exact absurd (congrArg List.head? same) span.bare
  | backward span =>
    cases other with
    | forward whole' minute' second' fraction' =>
      have other := SpanText.forward whole' minute' second' fraction'
      exact absurd (congrArg List.head? same.symm) other.bare
    | backward other => exact ⟨rfl, span.forward_unique other (List.cons.inj same).2⟩

/-! ### The text of a wire value -/

theorem totalHours_eq_some_iff {days : UInt32} {hours : UInt8} {total : Nat} :
    totalHours days hours = some total ↔
      24 * days.toNat + hours.toNat < 2 ^ 32 ∧ 24 * days.toNat + hours.toNat = total := by
  simp [totalHours, UInt32.size]

theorem spanText_writes (negative : Bool) (hours minutes seconds micros : Nat) :
    SpanText negative hours minutes seconds micros
      (spanText negative hours minutes seconds micros) := by
  have forward : SpanText false hours minutes seconds micros
      (spanText false hours minutes seconds micros) := by
    have written := SpanText.forward (Text.writes_padded (by decide) hours)
      (Text.writes_padded (by decide) minutes) (Text.writes_padded (by decide) seconds)
      (Text.writes_padded (by decide) micros)
    simpa [spanText, joined] using written
  cases negative with
  | false => exact forward
  | true => exact .backward forward

/-- A span of time is read exactly if its hours fit 32 bits. It is read as a text, which is that of
the span with its hours counted exactly, and of no other span. -/
theorem span_exact_iff (type : ColumnType) (negative : Bool) (days : UInt32)
    (hours minutes seconds : UInt8) (micros : UInt32) :
    (((Wire.time negative days hours minutes seconds micros).toValue type).isSome ↔
      24 * days.toNat + hours.toNat < 2 ^ 32) ∧
    ∀ value ∈ (Wire.time negative days hours minutes seconds micros).toValue type,
      ∃ text, value = .string text ∧ ∀ negative' hours' minutes' seconds' micros',
        SpanText negative' hours' minutes' seconds' micros' text.toList ↔
          negative' = negative ∧ hours' = 24 * days.toNat + hours.toNat ∧
            minutes' = minutes.toNat ∧ seconds' = seconds.toNat ∧ micros' = micros.toNat := by
  constructor
  · rw [toValue, Option.isSome_map, Option.isSome_iff_exists]
    simp only [totalHours_eq_some_iff, exists_and_left, exists_eq', and_true]
  · intro value read
    obtain ⟨total, counted, rfl⟩ := Option.map_eq_some_iff.mp read
    obtain ⟨-, rfl⟩ := totalHours_eq_some_iff.mp counted
    refine ⟨_, rfl, fun negative' hours' minutes' seconds' micros' => ?_⟩
    rw [String.toList_ofList]
    have writes := spanText_writes negative (24 * days.toNat + hours.toNat) minutes.toNat
      seconds.toNat micros.toNat
    constructor
    · exact fun span => span.unique writes rfl
    · rintro ⟨rfl, rfl, rfl, rfl, rfl⟩
      exact writes

/-- The hours of 178956971 days do not fit 32 bits, and no text is read. -/
theorem hours_overflow :
    ¬ ∀ (type : ColumnType) (negative : Bool) (days : UInt32) (hours minutes seconds : UInt8)
      (micros : UInt32), ∃ text,
        (Wire.time negative days hours minutes seconds micros).toValue type = some (.string text) ∧
          SpanText negative (24 * days.toNat + hours.toNat) minutes.toNat seconds.toNat micros.toNat
            text.toList := by
  intro exact
  obtain ⟨text, read, -⟩ := exact .time false 178956971 0 0 0 0
  have broken : (Wire.time false 178956971 0 0 0 0).toValue .time = none := by rfl
  cases broken.symm.trans read

end SqlProbe.Mysql.Wire
