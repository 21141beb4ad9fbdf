/-!
# Binary floating point

Numbers of a binary floating-point format as a sign, a significand and an exponent, with the one
place where a quotient is rounded into the format. A finite number carries the proof that it is the
format's own form of its value, so two finite numbers of one sign and value are the same term.
-/

namespace SqlProbe.Number

/-- A binary format: the bits of its significand, and the exponents of its least and greatest unit.
-/
structure Format where
  precision : Nat
  minExponent : Int
  maxExponent : Int
  deriving DecidableEq

/-- Single precision. -/
def binary32 : Format := ⟨24, -149, 104⟩

/-- Double precision. -/
def binary64 : Format := ⟨53, -1074, 971⟩

/-- The value `m · 2 ^ q` is in the format's own form: the significand fits, and it is as long as
the precision unless the exponent is the least. -/
def Format.Canonical (format : Format) (m : Nat) (q : Int) : Prop :=
  m < Nat.pow 2 format.precision ∧ format.minExponent ≤ q ∧ q ≤ format.maxExponent ∧
    (q = format.minExponent ∨ Nat.pow 2 (format.precision - 1) ≤ m)

instance (format : Format) (m : Nat) (q : Int) : Decidable (format.Canonical m q) :=
  inferInstanceAs (Decidable (_ ∧ _))

/-- A number of a binary format. -/
inductive Binary (format : Format) where
  | nan
  | infinite (negative : Bool)
  | finite (negative : Bool) (m : Nat) (q : Int) (canonical : format.Canonical m q)
  deriving DecidableEq

/-- A single-precision number. -/
abbrev Binary32 := Binary binary32

/-- A double-precision number. -/
abbrev Binary64 := Binary binary64

/-- The quotient rounded to a whole number, a half going to the even neighbour. -/
def roundHalfEven (num den : Nat) : Nat :=
  let quotient := num / den
  let rest := num % den
  if 2 * rest < den then quotient
  else if den < 2 * rest then quotient + 1
  else quotient + quotient % 2

/-- The fraction `num / den` divided by `2 ^ q`, as numerator and denominator. -/
def overPowerOfTwo (num den : Nat) (q : Int) : Nat × Nat :=
  if 0 ≤ q then (num, den * Nat.pow 2 q.toNat) else (num * Nat.pow 2 (-q).toNat, den)

namespace Binary

variable {format : Format}

/-- The number `m · 2 ^ q` when that is its form in the format, and an infinity otherwise. -/
def ofParts (format : Format) (negative : Bool) (m : Nat) (q : Int) : Binary format :=
  if canonical : format.Canonical m q then finite negative m q canonical else infinite negative

/-- The number of the format nearest to `num / den`, of two the one with even significand. -/
def ofRatio (format : Format) (negative : Bool) (num den : Nat) : Binary format :=
  if num = 0 then ofParts format negative 0 format.minExponent
  else
    let estimate : Int := (num.log2 : Int) - den.log2 - ((format.precision : Int) - 1)
    let (a, b) := overPowerOfTwo num den estimate
    let fitting := if a < Nat.pow 2 (format.precision - 1) * b then estimate - 1 else estimate
    let q := max format.minExponent fitting
    let (a, b) := overPowerOfTwo num den q
    let m := roundHalfEven a b
    if m = Nat.pow 2 format.precision then
      ofParts format negative (Nat.pow 2 (format.precision - 1)) (q + 1)
    else ofParts format negative m q

/-- The number of the format nearest to `m · 10 ^ e`. Exponents far outside the format's range are
decided without the power. -/
def ofDecimal (format : Format) (negative : Bool) (m : Nat) (e : Int) : Binary format :=
  let magnitude := e + (Nat.toDigits 10 m).length
  if m = 0 then ofParts format negative 0 format.minExponent
  else if 400 < magnitude then infinite negative
  else if magnitude < -400 then ofParts format negative 0 format.minExponent
  else if 0 ≤ e then ofRatio format negative (m * Nat.pow 10 e.toNat) 1
  else ofRatio format negative m (Nat.pow 10 (-e).toNat)

/-- The number is neither infinite nor a NaN. -/
def isFinite : Binary format → Bool
  | finite .. => true
  | _ => false

/-- The value `m · 2 ^ q` as a fraction. -/
def ratio (m : Nat) (q : Int) : Nat × Nat :=
  if 0 ≤ q then (m * Nat.pow 2 q.toNat, 1) else (m, Nat.pow 2 (-q).toNat)

/-- The nearest number of another format. -/
def convert (target : Format) : Binary format → Binary target
  | nan => nan
  | infinite negative => infinite negative
  | finite negative m q _ =>
    let (num, den) := ratio m q
    ofRatio target negative num den

/-- The product of two numbers, rounded. A factor that is not finite is the product. -/
def times : Binary format → Binary format → Binary format
  | finite sign m q _, finite sign' m' q' _ =>
    let (num, den) := ratio (m * m') (q + q')
    ofRatio format (sign != sign') num den
  | finite .., y => y
  | x, _ => x

/-- The quotient by a number other than zero, rounded. An operand that is not finite is the
quotient. -/
def dividedBy : Binary format → Binary format → Binary format
  | finite sign m q _, finite sign' m' q' _ =>
    let (num, den) := ratio m (q - q')
    ofRatio format (sign != sign') num (den * m')
  | finite .., y => y
  | x, _ => x

/-- The number with the other sign. -/
def negate : Binary format → Binary format
  | finite negative m q canonical => finite (!negative) m q canonical
  | infinite negative => infinite (!negative)
  | nan => nan

end Binary

end SqlProbe.Number
