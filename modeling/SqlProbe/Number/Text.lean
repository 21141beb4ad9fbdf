import SqlProbe.Number.Shortest
import SqlProbe.Text.Ascii
import SqlProbe.Text.Numeral

/-!
# Binary numbers as text

A number is written with its shortest digits in positional notation, never with an exponent. It is
read from decimal notation with an optional fraction and exponent, or from one of the names of the
infinities and of the NaN, and rounded once.
-/

namespace SqlProbe.Number

/-- A decimal in positional notation; a decimal point stands only between two digits. -/
def Decimal.positional (d : Decimal) : List Char :=
  let digits := d.digits
  let point := digits.length + d.exponent
  if 0 ≤ d.exponent then digits ++ List.replicate d.exponent.toNat '0'
  else if 0 < point then digits.take point.toNat ++ '.' :: digits.drop point.toNat
  else '0' :: '.' :: (List.replicate (-point).toNat '0' ++ digits)

/-- The text of a number. -/
def Binary.text {format : Format} : Binary format → List Char
  | nan => ['N', 'a', 'N']
  | infinite negative => (if negative then ['-'] else []) ++ ['i', 'n', 'f']
  | finite negative m q _ =>
    (if negative then ['-'] else []) ++ (shortest format .greater m q).positional

/-- Cuts a text behind its leading digits. -/
def spanDigits (cs : List Char) : List Char × List Char := cs.span Char.isDigit

/-- The exponent part of a numeral: nothing, or the letter, an optional sign and digits. -/
def exponent? : List Char → Option Int
  | [] => some 0
  | mark :: rest => if mark = 'e' ∨ mark = 'E' then signed rest else none
where
  signed : List Char → Option Int
    | '-' :: ds => (Text.digits? ds).map fun n => -(n : Int)
    | '+' :: ds => (Text.digits? ds).map fun n => (n : Int)
    | ds => (Text.digits? ds).map fun n => (n : Int)

/-- A decimal numeral without sign: digits with an optional point among or at either end of them,
then an optional exponent. -/
def Decimal.ofText? (cs : List Char) : Option Decimal :=
  let (whole, rest) := spanDigits cs
  let (fraction, rest) := match rest with
    | '.' :: rest => spanDigits rest
    | _ => ([], rest)
  if whole = [] ∧ fraction = [] then none
  else (exponent? rest).map fun e =>
    ⟨Nat.ofDigitChars 10 (whole ++ fraction) 0, e - fraction.length⟩

/-- A number without sign: a name or a decimal numeral. -/
def Binary.magnitude? (format : Format) (negative : Bool) (cs : List Char) :
    Option (Binary format) :=
  let name := String.ofList (Text.lower cs)
  if name = "inf" ∨ name = "infinity" then some (infinite negative)
  else if name = "nan" then some nan
  else (Decimal.ofText? cs).map fun d => ofDecimal format negative d.coefficient d.exponent

/-- The number that a text writes, behind an optional sign. -/
def Binary.ofText? (format : Format) : List Char → Option (Binary format)
  | '-' :: cs => magnitude? format true cs
  | '+' :: cs => magnitude? format false cs
  | cs => magnitude? format false cs

end SqlProbe.Number
