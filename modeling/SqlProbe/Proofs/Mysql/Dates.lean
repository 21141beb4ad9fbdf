import Mathlib.Algebra.Ring.Nat
import SqlProbe.Mysql.Wire
import SqlProbe.Proofs.Text.Numeral

/-!
# Dates on the wire

A date with a time of day is read in one of four ways: with its time or without, and as a calendar
value or, where there is no such day or second, as text. All four write the same fields in the same
order, so a text tells from which fields it was written. Only the microseconds of a time that does
not exist are left out.
-/

namespace SqlProbe.Mysql

/-- The fields of a date as a server sends them. -/
structure Stamp where
  year : UInt16
  month : UInt8
  day : UInt8
  hour : UInt8
  minute : UInt8
  second : UInt8
  micros : UInt32
  deriving DecidableEq

namespace Stamp

/-- The wire value with these fields. -/
def wire (stamp : Stamp) : Wire :=
  .date stamp.year stamp.month stamp.day stamp.hour stamp.minute stamp.second stamp.micros

/-- The fields up to the second. -/
def whole (stamp : Stamp) : Stamp := { stamp with micros := 0 }

/-- All fields of the time of day are zero, so it is not read. -/
def IsDate (stamp : Stamp) : Prop :=
  stamp.hour = 0 ∧ stamp.minute = 0 ∧ stamp.second = 0 ∧ stamp.micros = 0

instance (stamp : Stamp) : Decidable stamp.IsDate := inferInstanceAs (Decidable (_ ∧ _))

/-- The calendar has the day and the day has the second. -/
def Exists (stamp : Stamp) : Prop :=
  Calendar.ValidDate stamp.year.toNat stamp.month.toNat stamp.day.toNat ∧
    stamp.hour.toNat < 24 ∧ stamp.minute.toNat < 60 ∧ stamp.second.toNat < 60

instance (stamp : Stamp) : Decidable stamp.Exists := inferInstanceAs (Decidable (_ ∧ _))

/-! ### The text of a date -/

open Text (padded)
open Calendar (Date TimeOfDay ValidDate ValidTime nanosPerSecond)

/-- The sign of a year of the calendar with more than four digits. -/
def sign (stamp : Stamp) : List Char :=
  if stamp.Exists ∧ 9999 < stamp.year.toNat then ['+'] else []

/-- What is written behind the second. -/
def fraction (stamp : Stamp) : List Char :=
  if stamp.Exists then TimeOfDay.fractionText (stamp.micros.toNat * 1000) else []

/-- What is written behind the day. -/
def clock (stamp : Stamp) : List Char :=
  if stamp.IsDate then []
  else ' ' :: (padded 2 stamp.hour.toNat ++ ':' :: (padded 2 stamp.minute.toNat ++
    ':' :: (padded 2 stamp.second.toNat ++ stamp.fraction)))

/-- The text of a date, in whichever way it is read. -/
def text (stamp : Stamp) : List Char :=
  stamp.sign ++ (padded 4 stamp.year.toNat ++ '-' :: (padded 2 stamp.month.toNat ++
    '-' :: (padded 2 stamp.day.toNat ++ stamp.clock)))

theorem yearText_natural (year : Nat) :
    Date.yearText year = (if 9999 < year then ['+'] else []) ++ padded 4 year := by
  unfold Date.yearText
  by_cases long : 9999 < year
  · rw [if_neg (by omega), if_neg (by omega), if_pos long]
    rfl
  · rw [if_pos (by omega), if_neg long]
    rfl

theorem validTime_iff {hour minute second micros : Nat} (short : micros < 1000000) :
    ValidTime hour minute second (micros * 1000) ↔ hour < 24 ∧ minute < 60 ∧ second < 60 := by
  unfold ValidTime nanosPerSecond
  omega

theorem nanos_lt {micros : Nat} (short : micros < 1000000) : micros * 1000 < nanosPerSecond := by
  unfold nanosPerSecond
  omega

/-- Microseconds that make up less than a second keep to the second. -/
theorem timeText_micros {hour minute second micros : Nat} (short : micros < 1000000)
    (valid : ValidTime hour minute second (micros * 1000)) :
    TimeOfDay.text ⟨hour, minute, second, micros * 1000, valid⟩ = padded 2 hour ++ ':' ::
      (padded 2 minute ++ ':' :: (padded 2 second ++ TimeOfDay.fractionText (micros * 1000))) := by
  simp [TimeOfDay.text, Nat.div_eq_of_lt (nanos_lt short), Nat.mod_eq_of_lt (nanos_lt short)]

/-- Without a time of day there is a day to find and no more. -/
theorem exists_iff_of_isDate {stamp : Stamp} (date : stamp.IsDate) :
    stamp.Exists ↔ ValidDate stamp.year.toNat stamp.month.toNat stamp.day.toNat := by
  obtain ⟨hour, minute, second, -⟩ := date
  simp [Exists, hour, minute, second]

theorem toList_text_dateOnly {stamp : Stamp} (date : stamp.IsDate) :
    (Wire.dateOnly stamp.year.toNat stamp.month.toNat stamp.day.toNat).text.toList =
      stamp.text := by
  rw [text, clock, if_pos date, sign]
  simp only [exists_iff_of_isDate date]
  unfold Wire.dateOnly Date.of?
  by_cases valid : ValidDate stamp.year.toNat stamp.month.toNat stamp.day.toNat
  · simp [valid, Value.text, Date.text, yearText_natural]
  · simp [valid, Value.text, Wire.joined]

theorem toList_text_dateAndTime {stamp : Stamp} (timed : ¬ stamp.IsDate)
    (short : stamp.micros.toNat < 1000000) :
    (Wire.dateAndTime stamp.year.toNat stamp.month.toNat stamp.day.toNat stamp.hour.toNat
      stamp.minute.toNat stamp.second.toNat stamp.micros.toNat).text.toList = stamp.text := by
  rw [text, clock, if_neg timed, sign, fraction]
  unfold Wire.dateAndTime Date.of? TimeOfDay.of?
  simp only [Exists, ← validTime_iff short]
  by_cases valid : ValidDate stamp.year.toNat stamp.month.toNat stamp.day.toNat
  · by_cases clock : ValidTime stamp.hour.toNat stamp.minute.toNat stamp.second.toNat
      (stamp.micros.toNat * 1000)
    · simp [valid, clock, Value.text, Calendar.DateTime.text, Calendar.DateTime.textWith, Date.text,
        timeText_micros short, yearText_natural]
    · simp [valid, clock, Value.text, Wire.joined]
  · simp [valid, Value.text, Wire.joined]

/-- The four ways in which a date is read write one form of text. -/
theorem exists_toValue (type : ColumnType) {stamp : Stamp} (short : stamp.micros.toNat < 1000000) :
    ∃ value, stamp.wire.toValue type = some value ∧ value.text.toList = stamp.text := by
  refine ⟨_, rfl, ?_⟩
  split
  · next date => exact toList_text_dateOnly date
  · next timed => exact toList_text_dateAndTime timed short

/-! ### The fields of a text -/

/-- The nanoseconds that a fraction of a second writes, with its point. -/
def nanosOf (fraction : List Char) : Nat :=
  Nat.ofDigitChars 10 fraction.tail 0 * 10 ^ (9 - fraction.tail.length)

theorem length_padded {width n : Nat} (positive : 0 < width) (small : n < 10 ^ width) :
    (padded width n).length = width := by
  have short := (Nat.length_toDigits_le_iff (by decide) positive).mpr small
  rw [padded, List.length_leftpad, Text.digits]
  omega

theorem nanosOf_fractionText {n : Nat} (within : n < nanosPerSecond) :
    nanosOf (TimeOfDay.fractionText n) = n := by
  unfold nanosPerSecond at within
  have read {width m : Nat} (positive : 0 < width) (small : m < 10 ^ width) :
      nanosOf ('.' :: padded width m) = m * 10 ^ (9 - width) := by
    rw [nanosOf, List.tail_cons, Text.ofDigitChars_padded, length_padded positive small]
  unfold TimeOfDay.fractionText
  split
  · next zero => exact zero.symm
  split
  · rw [read (by decide) (by omega)]
    omega
  split
  · rw [read (by decide) (by omega)]
    omega
  · rw [read (by decide) (by omega)]
    omega

theorem fractionText_stops (n : Nat) :
    ∀ c ∈ (TimeOfDay.fractionText n).head?, c.isDigit = false := by
  unfold TimeOfDay.fractionText
  split_ifs <;> simp

theorem fraction_stops (stamp : Stamp) : ∀ c ∈ stamp.fraction.head?, c.isDigit = false := by
  unfold fraction
  split
  · exact fractionText_stops _
  · simp

theorem clock_stops (stamp : Stamp) : ∀ c ∈ stamp.clock.head?, c.isDigit = false := by
  unfold clock
  split <;> simp

theorem sign_signs (stamp : Stamp) : Sql.Numeral.Sign stamp.sign := by
  unfold sign
  split
  · exact .plus
  · exact .none

variable {stamp stamp' : Stamp}

theorem eq_of_text_eq (same : stamp.text = stamp'.text) :
    stamp.year = stamp'.year ∧ stamp.month = stamp'.month ∧ stamp.day = stamp'.day ∧
      stamp.clock = stamp'.clock := by
  have unsigned (stamp : Stamp) (rest : List Char) :
      Sql.dropSign (stamp.sign ++ (padded 4 stamp.year.toNat ++ rest)) =
        padded 4 stamp.year.toNat ++ rest :=
    Sql.dropSign_append stamp.sign_signs ((Text.digits_padded _ _).bare rest)
  -- A year of more than four digits has a sign only where the stamp exists, so signs are dropped.
  have bare := congrArg Sql.dropSign same
  rw [text, text, unsigned, unsigned] at bare
  obtain ⟨year, bare⟩ := Text.padded_append_cons_inj (by decide) (by decide) bare
  obtain ⟨month, bare⟩ := Text.padded_append_cons_inj (by decide) (by decide) bare
  obtain ⟨day, clocks⟩ := Text.padded_append_inj (by decide) (clock_stops _) (clock_stops _) bare
  exact ⟨UInt16.toNat_inj.mp year, UInt8.toNat_inj.mp month, UInt8.toNat_inj.mp day, clocks⟩

theorem eq_of_clock_eq (timed : ¬ stamp.IsDate) (timed' : ¬ stamp'.IsDate)
    (same : stamp.clock = stamp'.clock) :
    stamp.hour = stamp'.hour ∧ stamp.minute = stamp'.minute ∧ stamp.second = stamp'.second ∧
      stamp.fraction = stamp'.fraction := by
  rw [clock, clock, if_neg timed, if_neg timed'] at same
  have same := (List.cons.inj same).2
  obtain ⟨hour, same⟩ := Text.padded_append_cons_inj (by decide) (by decide) same
  obtain ⟨minute, same⟩ := Text.padded_append_cons_inj (by decide) (by decide) same
  obtain ⟨second, fractions⟩ :=
    Text.padded_append_inj (by decide) (fraction_stops _) (fraction_stops _) same
  exact ⟨UInt8.toNat_inj.mp hour, UInt8.toNat_inj.mp minute, UInt8.toNat_inj.mp second, fractions⟩

theorem isDate_iff_of_clock_eq (same : stamp.clock = stamp'.clock) :
    stamp.IsDate ↔ stamp'.IsDate := by
  unfold clock at same
  split at same <;> split at same <;> simp_all

theorem micros_eq_of_fraction_eq (short : stamp.micros.toNat < 1000000)
    (short' : stamp'.micros.toNat < 1000000) (found : stamp.Exists) (found' : stamp'.Exists)
    (same : stamp.fraction = stamp'.fraction) : stamp.micros = stamp'.micros := by
  rw [fraction, fraction, if_pos found, if_pos found'] at same
  have value := congrArg nanosOf same
  rw [nanosOf_fractionText (nanos_lt short), nanosOf_fractionText (nanos_lt short')] at value
  exact UInt32.toNat_inj.mp (by omega)

/-- Whether a stamp exists is told by its fields up to the second. -/
theorem exists_iff_of_whole_eq (same : stamp.whole = stamp'.whole) :
    stamp.Exists ↔ stamp'.Exists := by
  change stamp.whole.Exists ↔ stamp'.whole.Exists
  rw [same]

theorem eq_of_whole_eq (same : stamp.whole = stamp'.whole) (micros : stamp.micros = stamp'.micros) :
    stamp = stamp' := by
  cases stamp
  cases stamp'
  simp_all [whole]

theorem text_eq_of_whole_eq (same : stamp.whole = stamp'.whole) (absent : ¬ stamp.Exists)
    (timed : ¬ stamp.IsDate) (timed' : ¬ stamp'.IsDate) : stamp.text = stamp'.text := by
  have absent' := mt (exists_iff_of_whole_eq same).mpr absent
  cases stamp
  cases stamp'
  simp_all [whole, text, clock, sign, fraction]

/-- Dates of the wire are always read, and as values of the same text exactly if they are the same,
or if they agree up to the second, have a time of day, and name a day or a second that does not
exist. -/
theorem same_text_iff (type type' : ColumnType) (short : stamp.micros.toNat < 1000000)
    (short' : stamp'.micros.toNat < 1000000) :
    ∃ value value', stamp.wire.toValue type = some value ∧
      stamp'.wire.toValue type' = some value' ∧
      (value.text = value'.text ↔ stamp = stamp' ∨
        stamp.whole = stamp'.whole ∧ ¬ stamp.Exists ∧ ¬ stamp.IsDate ∧ ¬ stamp'.IsDate) := by
  obtain ⟨value, read, text⟩ := exists_toValue type short
  obtain ⟨value', read', text'⟩ := exists_toValue type' short'
  refine ⟨value, value', read, read', ?_⟩
  rw [← String.toList_inj, text, text']
  constructor
  · intro same
    obtain ⟨year, month, day, clocks⟩ := eq_of_text_eq same
    by_cases date : stamp.IsDate
    · obtain ⟨hour', minute', second', micros'⟩ := (isDate_iff_of_clock_eq clocks).mp date
      obtain ⟨hour, minute, second, micros⟩ := date
      left
      cases stamp
      cases stamp'
      simp_all
    · have date' := mt (isDate_iff_of_clock_eq clocks).mpr date
      obtain ⟨hour, minute, second, fractions⟩ := eq_of_clock_eq date date' clocks
      have upTo : stamp.whole = stamp'.whole := by
        simp only [whole, year, month, day, hour, minute, second]
      by_cases found : stamp.Exists
      · have found' := (exists_iff_of_whole_eq upTo).mp found
        have micros := micros_eq_of_fraction_eq short short' found found' fractions
        exact .inl (eq_of_whole_eq upTo micros)
      · exact .inr ⟨upTo, found, date, date'⟩
  · rintro (rfl | ⟨upTo, absent, timed, timed'⟩)
    · rfl
    · exact text_eq_of_whole_eq upTo absent timed timed'

/-- On a day that exists, two microseconds are told apart. -/
theorem same_text_iff_leap_day :
    (⟨2024, 2, 29, 12, 0, 0, 5⟩ : Stamp).micros.toNat < 1000000 ∧
    (⟨2024, 2, 29, 12, 0, 0, 6⟩ : Stamp).micros.toNat < 1000000 ∧
    ∃ value value', (⟨2024, 2, 29, 12, 0, 0, 5⟩ : Stamp).wire.toValue .dateTime = some value ∧
      (⟨2024, 2, 29, 12, 0, 0, 6⟩ : Stamp).wire.toValue .timestamp = some value' ∧
      value.text ≠ value'.text := by
  refine ⟨by decide, by decide, ?_⟩
  obtain ⟨value, value', read, read', same⟩ :=
    @same_text_iff ⟨2024, 2, 29, 12, 0, 0, 5⟩ ⟨2024, 2, 29, 12, 0, 0, 6⟩ .dateTime .timestamp
      (by decide) (by decide)
  exact ⟨value, value', read, read', mt same.mp (by decide)⟩

/-- In a thirteenth month they are not. -/
theorem microseconds_lost :
    ¬ ∀ (type : ColumnType) (stamp stamp' : Stamp), stamp.micros.toNat < 1000000 →
      stamp'.micros.toNat < 1000000 → stamp ≠ stamp' →
        ∀ value ∈ stamp.wire.toValue type, ∀ value' ∈ stamp'.wire.toValue type,
          value.text ≠ value'.text := by
  intro apart
  exact apart .dateTime ⟨2024, 13, 1, 10, 0, 0, 5⟩ ⟨2024, 13, 1, 10, 0, 0, 0⟩ (by decide)
    (by decide) (by decide) _ rfl _ rfl rfl

end Stamp

end SqlProbe.Mysql
