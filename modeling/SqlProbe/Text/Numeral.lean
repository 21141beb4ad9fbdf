/-!
# Decimal numerals

Reading and writing whole numbers in decimal. A numeral is a nonempty run of ASCII digits behind an
optional sign; a reader takes a bound and refuses what lies beyond it.
-/

namespace SqlProbe.Text

/-- The number that a nonempty run of ASCII digits writes. -/
def digits? (cs : List Char) : Option Nat :=
  if cs ≠ [] ∧ cs.all Char.isDigit then some (Nat.ofDigitChars 10 cs 0) else none

/-- The numeral of a number from 0 to `limit`, behind an optional plus sign. -/
def natural? (limit : Nat) (cs : List Char) : Option Nat :=
  let run := match cs with
    | '+' :: rest => rest
    | _ => cs
  (digits? run).filter (· ≤ limit)

/-- The numeral of a number from `low` to `high`, behind an optional sign. -/
def integer? (low high : Int) (cs : List Char) : Option Int :=
  let read := match cs with
    | '-' :: rest => (digits? rest).map fun n => -(n : Int)
    | '+' :: rest => (digits? rest).map fun n => (n : Int)
    | _ => (digits? cs).map fun n => (n : Int)
  read.filter fun n => low ≤ n && n ≤ high

/-- The numeral of a signed 64-bit number. -/
def int64? (cs : List Char) : Option Int := integer? Int64.minValue.toInt Int64.maxValue.toInt cs

/-- The decimal digits of a number. -/
def digits (n : Nat) : List Char := Nat.toDigits 10 n

/-- The decimal digits of a number behind as many zeros as make up `width`. -/
def padded (width n : Nat) : List Char := (digits n).leftpad width '0'

/-- The numeral of a number: a minus sign for negative ones, then the digits. -/
def integer (n : Int) : List Char :=
  if n < 0 then '-' :: digits n.natAbs else digits n.natAbs

/-- The two hexadecimal digits of a byte, in lower case. -/
def hexByte (b : UInt8) : List Char :=
  [Nat.digitChar (b.toNat / 16), Nat.digitChar (b.toNat % 16)]

/-- The value of a hexadecimal digit of either case. -/
def hexDigit? (c : Char) : Option Nat :=
  if c.isDigit then some (c.toNat - '0'.toNat)
  else if 'a' ≤ c ∧ c ≤ 'f' then some (c.toNat - 'a'.toNat + 10)
  else if 'A' ≤ c ∧ c ≤ 'F' then some (c.toNat - 'A'.toNat + 10)
  else none

/-- The bytes written as pairs of hexadecimal digits. -/
def hexBytes? : List Char → Option (List UInt8)
  | [] => some []
  | high :: low :: rest => do
    let h ← hexDigit? high
    let l ← hexDigit? low
    let bytes ← hexBytes? rest
    pure (UInt8.ofNat (16 * h + l) :: bytes)
  | [_] => none

end SqlProbe.Text
