import SqlProbe.Calendar.Date

/-!
# Times of day and points in time

A time of day has nanoseconds, and the last second of a minute may be a leap second: its nanoseconds
then run past one thousand million and it is written as second 60. The fraction of a second is
written with no digits when it is zero, and otherwise with the least of three, six or nine digits
that hold it.
-/

namespace SqlProbe.Calendar

/-- Nanoseconds in a second. -/
def nanosPerSecond : Nat := 1000000000

/-- The fields name a time of day; nanoseconds past a second stand for a leap second. -/
def ValidTime (hour minute second nanosecond : Nat) : Prop :=
  hour < 24 ∧ minute < 60 ∧ second < 60 ∧ nanosecond < 2 * nanosPerSecond ∧
    (nanosecond < nanosPerSecond ∨ second = 59)

instance (hour minute second nanosecond : Nat) :
    Decidable (ValidTime hour minute second nanosecond) :=
  inferInstanceAs (Decidable (_ ∧ _))

/-- A time of day. -/
structure TimeOfDay where
  hour : Nat
  minute : Nat
  second : Nat
  nanosecond : Nat
  valid : ValidTime hour minute second nanosecond
  deriving DecidableEq

namespace TimeOfDay

/-- The time of day with the given fields, if there is one. -/
def of? (hour minute second nanosecond : Nat) : Option TimeOfDay :=
  if valid : ValidTime hour minute second nanosecond then
    some ⟨hour, minute, second, nanosecond, valid⟩
  else none

/-- The fraction of a second, with its point. -/
def fractionText (nanos : Nat) : List Char :=
  if nanos = 0 then []
  else if nanos % 1000000 = 0 then '.' :: Text.padded 3 (nanos / 1000000)
  else if nanos % 1000 = 0 then '.' :: Text.padded 6 (nanos / 1000)
  else '.' :: Text.padded 9 nanos

/-- The text of a time of day. -/
def text (time : TimeOfDay) : List Char :=
  Text.padded 2 time.hour ++ ':' :: Text.padded 2 time.minute ++
    ':' :: Text.padded 2 (time.second + time.nanosecond / nanosPerSecond) ++
    fractionText (time.nanosecond % nanosPerSecond)

end TimeOfDay

/-- A date with a time of day. -/
structure DateTime where
  date : Date
  time : TimeOfDay
  deriving DecidableEq

namespace DateTime

/-- The text of a date and time, with the given mark between them. -/
def textWith (mark : Char) (t : DateTime) : List Char := t.date.text ++ mark :: t.time.text

/-- The text of a date and time. -/
def text (t : DateTime) : List Char := t.textWith ' '

/-- The point in time that lies `minutes` minutes earlier, less than two days; leap seconds keep
their place at the end of a minute. -/
def minusMinutes? (t : DateTime) (minutes : Int) : Option DateTime :=
  let total : Int := t.time.hour * 60 + t.time.minute - minutes
  let inDay := total % 1440
  let date :=
    if total < 0 then t.date.previous?
    else if 1440 ≤ total then t.date.next?
    else some t.date
  date.bind fun date =>
    (TimeOfDay.of? (inDay / 60).toNat (inDay % 60).toNat t.time.second t.time.nanosecond).map
      fun time => ⟨date, time⟩

end DateTime

end SqlProbe.Calendar
