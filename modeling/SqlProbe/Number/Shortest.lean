import SqlProbe.Number.Binary

/-!
# Shortest decimal digits

The decimal that stands for a binary number: of the decimals that round to the number, one with the
fewest digits, and of those the nearest to it. The search tries one digit, then two and so on; on
each decimal grid only the two neighbours of the number can be wanted.
-/

namespace SqlProbe.Number

/-- The decimal `coefficient · 10 ^ exponent`. -/
structure Decimal where
  coefficient : Nat
  exponent : Int
  deriving DecidableEq, Repr

/-- The decimal digits of the coefficient. -/
def Decimal.digits (d : Decimal) : List Char := Nat.toDigits 10 d.coefficient

/-- The same value without zeros at the end of the coefficient; `fuel` bounds their number. -/
def Decimal.strip (fuel : Nat) (d : Decimal) : Decimal :=
  match fuel with
  | 0 => d
  | fuel + 1 =>
    if d.coefficient ≠ 0 ∧ d.coefficient % 10 = 0 then
      strip fuel ⟨d.coefficient / 10, d.exponent + 1⟩
    else d

/-- The reals that round to a number, all over one denominator: the number itself, the two ends of
the interval, and whether the ends belong to it. -/
structure Rounding where
  value : Nat
  low : Nat
  high : Nat
  denominator : Nat
  closed : Bool

/-- The interval around `m · 2 ^ q`. Below a power of two the next number is half as far away. -/
def Rounding.around (format : Format) (m : Nat) (q : Int) : Rounding :=
  let below := if m = Nat.pow 2 (format.precision - 1) ∧ q ≠ format.minExponent then 1 else 2
  let unit : Nat × Nat := Binary.ratio 1 (q - 2)
  { value := 4 * m * unit.1
    low := (4 * m - below) * unit.1
    high := (4 * m + 2) * unit.1
    denominator := unit.2
    closed := m % 2 = 0 }

/-- The exponent `k` with `10 ^ (k - 1) ≤ value < 10 ^ k`, for a positive value. -/
def Rounding.magnitude (r : Rounding) : Int :=
  if r.denominator ≤ r.value then (Nat.toDigits 10 (r.value / r.denominator)).length
  else 1 - ((Nat.toDigits 10 ((r.denominator - 1) / r.value)).length : Int)

/-- The point `g · 10 ^ e` of a decimal grid lies in the interval; `up` and `down` are the powers of
ten by which value and grid are multiplied to make both whole. -/
def Rounding.holds (r : Rounding) (up down g : Nat) : Bool :=
  let point := g * (r.denominator * down)
  if r.closed then r.low * up ≤ point && point ≤ r.high * up
  else r.low * up < point && point < r.high * up

/-- Which of two points at one distance from the value is taken. -/
inductive Tie where
  | greater
  | even
  deriving DecidableEq, Repr

/-- Of the points `g` and `g + 1` the one at the lesser distance, where `rest` of `whole` is the way
from `g` to the value. -/
def Tie.nearer (tie : Tie) (g rest whole : Nat) : Nat :=
  if 2 * rest < whole then g
  else if whole < 2 * rest then g + 1
  else
    match tie with
    | greater => g + 1
    | even => g + g % 2

/-- The point of the grid of step `10 ^ e` that lies in the interval and is nearest to the value. -/
def Rounding.onGrid? (r : Rounding) (tie : Tie) (e : Int) : Option Nat :=
  let up := Nat.pow 10 (-e).toNat
  let down := Nat.pow 10 e.toNat
  let whole := r.denominator * down
  let g := r.value * up / whole
  let rest := r.value * up % whole
  match r.holds up down g, rest != 0 && r.holds up down (g + 1) with
  | true, true => some (tie.nearer g rest whole)
  | true, false => some g
  | false, true => some (g + 1)
  | false, false => none

/-- Tries grids from `n` digits on. -/
def Rounding.search (r : Rounding) (tie : Tie) (magnitude : Int) : Nat → Nat → Decimal
  | 0, n => ⟨(r.onGrid? tie (magnitude - n)).getD 0, magnitude - n⟩
  | fuel + 1, n =>
    match r.onGrid? tie (magnitude - n) with
    | some g => ⟨g, magnitude - n⟩
    | none => r.search tie magnitude fuel (n + 1)

/-- The shortest decimal that rounds to `m · 2 ^ q` in the format. -/
def shortest (format : Format) (tie : Tie) (m : Nat) (q : Int) : Decimal :=
  if m = 0 then ⟨0, 0⟩
  else
    let r := Rounding.around format m q
    (r.search tie r.magnitude 17 1).strip 17

end SqlProbe.Number
