import SqlProbe.Text.Numeral

/-!
# Spans of time in text

A span is written in the greatest unit of which it holds at least one, with as many decimals as it
needs and no more.
-/

namespace SqlProbe.Calendar

/-- Digits behind a point, without the zeros at their end; nothing if all are zeros. -/
def decimals (places n : Nat) : List Char :=
  match ((Text.padded places n).reverse.dropWhile (· == '0')).reverse with
  | [] => []
  | ds => '.' :: ds

/-- A number of thousandths, millionths or billionths of a unit, and the unit. -/
def inUnit (places n : Nat) (unit : String) : String :=
  String.ofList (Text.digits (n / Nat.pow 10 places) ++ decimals places (n % Nat.pow 10 places)) ++ unit

/-- The text of a span of so many nanoseconds. -/
def nanosText (n : Nat) : String :=
  if Nat.pow 10 9 ≤ n then inUnit 9 n "s"
  else if Nat.pow 10 6 ≤ n then inUnit 6 n "ms"
  else if Nat.pow 10 3 ≤ n then inUnit 3 n "µs"
  else inUnit 0 n "ns"

/-- A span of so many nanoseconds in milliseconds with two decimals, rounded to the nearest. -/
def millisFixed (n : Nat) : String :=
  let hundredths := (n + 5000) / 10000
  String.ofList (Text.digits (hundredths / 100) ++ '.' :: Text.padded 2 (hundredths % 100))

/-- The text of a span of so many milliseconds. -/
def millisText (n : Nat) : String := nanosText (n * Nat.pow 10 6)

end SqlProbe.Calendar
