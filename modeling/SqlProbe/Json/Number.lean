import SqlProbe.Json.Basic
import SqlProbe.Number.Text

/-!
# JSON numbers

Reading keeps as many leading digits as fit 64 bits, drops the rest, and scales what it kept by a
power of ten in double precision; a number of many digits may so be one unit away from the nearest.
Writing gives the shortest digits, with an exponent for very large and very small numbers.
-/

namespace SqlProbe.Json

open Number

/-- The greatest number of 64 bits. -/
def wordMax : Nat := Nat.pow 2 64 - 1

/-- Takes digits into a number for as long as it fits 64 bits. -/
def absorb (n : Nat) : List Char → Nat × List Char
  | [] => (n, [])
  | c :: cs =>
    let next := n * 10 + (c.toNat - '0'.toNat)
    if next ≤ wordMax then absorb next cs else (n, c :: cs)

/-- The number nearest to `10 ^ n`. -/
def powerOfTen (n : Nat) : Binary64 := Binary.ofRatio binary64 false (Nat.pow 10 n) 1

/-- Zero. -/
def zero : Binary64 := Binary.ofRatio binary64 false 0 1

/-- Multiplies by `10 ^ e`, in steps whose powers double precision can hold; `fuel` bounds the
steps. -/
def scale (x : Binary64) (e : Int) : Nat → Binary64
  | 0 => x
  | fuel + 1 =>
    if e.natAbs ≤ 308 then
      if 0 ≤ e then x.times (powerOfTen e.natAbs) else x.dividedBy (powerOfTen e.natAbs)
    else if 0 ≤ e then .infinite false
    else scale (x.dividedBy (powerOfTen 308)) (e + 308) fuel

/-- The number `m · 10 ^ e`, where `m` fits 64 bits. -/
def floatOfParts (m : Nat) (e : Int) : Binary64 :=
  if m = 0 ∨ e < -2000 then zero else scale (Binary.ofRatio binary64 false m 1) e 10

/-- The numeral of a number: whole digits, digits behind the point, and the exponent with its sign.
-/
structure Numeral where
  negative : Bool
  whole : List Char
  fraction : Option (List Char)
  exponent : Option Int

/-- The exponents that are read as numbers; one beyond them makes the number zero or infinite. -/
def exponentMax : Nat := Nat.pow 2 31 - 1

/-- The value of a numeral without its sign, as a binary number. -/
def Numeral.magnitude (n : Numeral) : Binary64 :=
  let (m, dropped) := absorb 0 n.whole
  let fraction := n.fraction.getD []
  let (m, unread) := absorb m fraction
  let point : Int := (dropped.length : Int) - (fraction.length - unread.length : Nat)
  let e := n.exponent.getD 0
  if exponentMax < e.natAbs then
    if m = 0 ∨ e < 0 then zero else .infinite false
  else floatOfParts m (point + e)

/-- The value of a numeral. -/
def Numeral.value (n : Numeral) : Json :=
  let m := Nat.ofDigitChars 10 n.whole 0
  let signed : Binary64 → Binary64 := fun x => if n.negative then x.negate else x
  if n.fraction.isSome ∨ n.exponent.isSome then float (signed n.magnitude)
  else if n.negative then
    if 1 ≤ m ∧ m ≤ Nat.pow 2 63 then integer (-(m : Int)) else float (signed n.magnitude)
  else if m ≤ wordMax then integer m
  else float n.magnitude

/-- A run of digits that may be any length but zero. -/
def someDigits? (cs : List Char) : Option (List Char × List Char) :=
  let (ds, rest) := spanDigits cs
  if ds = [] then none else some (ds, rest)

/-- Whole digits: a zero that stands alone, or digits that do not begin with one. -/
def wholeDigits? (cs : List Char) : Option (List Char × List Char) :=
  (someDigits? cs).filter fun (ds, _) => ds.head? ≠ some '0' || ds.length == 1

/-- The numeral at the head of a text. -/
def Numeral.read? (cs : List Char) : Option (Numeral × List Char) := do
  let (negative, cs) := match cs with
    | '-' :: cs => (true, cs)
    | cs => (false, cs)
  let (whole, cs) ← wholeDigits? cs
  let (fraction, cs) ← match cs with
    | '.' :: cs => (someDigits? cs).map fun (ds, cs) => (some ds, cs)
    | cs => some (none, cs)
  let (exponent, cs) ← exponent? cs
  pure (⟨negative, whole, fraction, exponent⟩, cs)
where
  exponent? : List Char → Option (Option Int × List Char)
    | mark :: cs =>
      if mark = 'e' ∨ mark = 'E' then
        let (negative, cs) := match cs with
          | '-' :: cs => (true, cs)
          | '+' :: cs => (false, cs)
          | cs => (false, cs)
        (someDigits? cs).map fun (ds, cs) =>
          let e : Int := Nat.ofDigitChars 10 ds 0
          (some (if negative then -e else e), cs)
      else some (none, mark :: cs)
    | [] => some (none, [])

/-- From which magnitudes on a number is written with an exponent. -/
structure Layout where
  /-- The most digits before the point. -/
  most : Int
  /-- The most zeros between the point and the first digit. -/
  zeros : Int

/-- Where numbers of a format are written with an exponent. -/
def layout (format : Format) : Layout := if format.precision = 24 then ⟨13, 5⟩ else ⟨16, 4⟩

/-- The numeral of a decimal: positional with at least one digit on either side of the point, or
with one digit before the point and an exponent. -/
def Layout.text (layout : Layout) (d : Decimal) : List Char :=
  let digits := d.digits
  let point := digits.length + d.exponent
  if 0 ≤ d.exponent ∧ point ≤ layout.most then d.positional ++ ['.', '0']
  else if -layout.zeros ≤ point ∧ point ≤ layout.most then d.positional
  else
    let power := Text.integer (point - 1)
    match digits with
    | [c] => c :: 'e' :: power
    | c :: cs => c :: '.' :: (cs ++ 'e' :: power)
    | [] => []

/-- The numeral of a binary number, or null where it is not finite. -/
def floatText {format : Format} : Binary format → List Char
  | .finite negative m q _ =>
    (if negative then ['-'] else []) ++ (layout format).text (shortest format .even m q)
  | _ => ['n', 'u', 'l', 'l']

end SqlProbe.Json
