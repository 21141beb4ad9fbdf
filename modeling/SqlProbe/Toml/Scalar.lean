import SqlProbe.Calendar.Date
import SqlProbe.Json.Basic
import SqlProbe.Number.Text
import SqlProbe.Text.Cut
import SqlProbe.Toml.Reader

/-!
# Numbers, dates and truth values of TOML

Values that are single words. A whole number has 64 bits and a sign; between two digits there may be
an underscore. Dates are kept as an object of one field, which no setting takes for anything else.
-/

namespace SqlProbe.Toml

/-- Digits without the underscores between them. -/
def plainDigits? (isDigit : Char → Bool) : List Char → Option (List Char)
  | [] => none
  | [c] => if isDigit c then some [c] else none
  | c :: '_' :: rest => if isDigit c then (c :: ·) <$> plainDigits? isDigit rest else none
  | c :: rest => if isDigit c then (c :: ·) <$> plainDigits? isDigit rest else none

/-- A word without the sign in front, and whether that is a minus sign. -/
def unsigned : List Char → Bool × List Char
  | '-' :: cs => (true, cs)
  | '+' :: cs => (false, cs)
  | cs => (false, cs)

/-- Decimal digits with no more zeros in front than the number zero has. -/
def wholeDigits? (cs : List Char) : Option (List Char) := do
  let digits ← plainDigits? Char.isDigit cs
  if digits.length = 1 || digits.head? ≠ some '0' then some digits else none

/-- A number of 63 bits in a base. -/
def inBase? (base : Nat) (isDigit : Char → Bool) (cs : List Char) : Option Int := do
  let digits ← plainDigits? isDigit cs
  let values ← digits.mapM Text.hexDigit?
  let n := values.foldl (fun n d => base * n + d) 0
  if n < Nat.pow 2 63 then some n else none

/-- A decimal number of 64 bits with a sign. -/
def decimal? (word : List Char) : Option Int := do
  let (negative, cs) := unsigned word
  let digits ← wholeDigits? cs
  Text.int64? (if negative then '-' :: digits else digits)

/-- A whole number. -/
def integer? : List Char → Option Int
  | '0' :: 'x' :: cs => inBase? 16 (fun c => (Text.hexDigit? c).isSome) cs
  | '0' :: 'o' :: cs => inBase? 8 (fun c => '0' ≤ c && c ≤ '7') cs
  | '0' :: 'b' :: cs => inBase? 2 (fun c => c = '0' || c = '1') cs
  | cs => decimal? cs

/-- The exponent of a number that has one, behind the mark. -/
def exponentDigits? (cs : List Char) : Option (List Char) := do
  let (negative, cs) := unsigned cs
  let digits ← plainDigits? Char.isDigit cs
  pure ('e' :: if negative then '-' :: digits else digits)

/-- A number with a fraction, an exponent or both. -/
def fractional? (word : List Char) : Option (List Char) := do
  let (negative, cs) := unsigned word
  let marked := cs.map fun c => if c = 'E' then 'e' else c
  let (mantissa, exponent) ← match Text.cutAt? 'e' marked with
    | some (mantissa, exponent) => do pure (mantissa, some (← exponentDigits? exponent))
    | none => pure (marked, none)
  let sign := if negative then ['-'] else []
  match Text.cutAt? '.' mantissa, exponent with
  | some (whole, fraction), _ =>
    pure (sign ++ (← wholeDigits? whole) ++ '.' :: (← plainDigits? Char.isDigit fraction) ++
      exponent.getD [])
  | none, some exponent => pure (sign ++ (← wholeDigits? mantissa) ++ exponent)
  | none, none => none

/-- A number that is not whole. Above the greatest of 64 bits there is none. -/
def float? (word : List Char) : Option Number.Binary64 :=
  match unsigned word with
  | (false, ['i', 'n', 'f']) | (true, ['i', 'n', 'f']) | (_, ['n', 'a', 'n']) =>
    Number.Binary.ofText? Number.binary64 word
  | _ => do
    let x ← Number.Binary.ofText? Number.binary64 (← fractional? word)
    if x.isFinite || word.head? = some '-' then some x else none

/-- Two digits up to a limit. -/
def twoDigits? (low high : Nat) (a b : Char) : Option (List Char) := do
  let n ← Text.digits? [a, b]
  if low ≤ n && n ≤ high then some [a, b] else none

/-- A fraction of a second to the nanosecond, without the zeros at its end. -/
def secondFraction? : List Char → Option (List Char × List Char)
  | '.' :: cs =>
    let (digits, rest) := cs.span Char.isDigit
    let shown := ((digits.take 9).reverse.dropWhile (· = '0')).reverse
    if digits = [] then none else some (if shown = [] then [] else '.' :: shown, rest)
  | cs => some ([], cs)

/-- A time of day in front of a word. -/
def time? : List Char → Option (List Char × List Char)
  | h :: i :: ':' :: m :: n :: ':' :: s :: t :: rest => do
    let hours ← twoDigits? 0 23 h i
    let minutes ← twoDigits? 0 59 m n
    let seconds ← twoDigits? 0 60 s t
    let (fraction, rest) ← secondFraction? rest
    pure (hours ++ ':' :: minutes ++ ':' :: seconds ++ fraction, rest)
  | _ => none

/-- A distance from universal time, or nothing. -/
def offset? : List Char → Option (List Char)
  | [] => some []
  | ['Z'] | ['z'] => some ['Z']
  | [sign, h, i, ':', m, n] => do
    let hours ← twoDigits? 0 23 h i
    let minutes ← twoDigits? 0 59 m n
    if sign = '+' || sign = '-' then
      let sign := if hours ++ minutes = ['0', '0', '0', '0'] then '+' else sign
      some (sign :: hours ++ ':' :: minutes)
    else none
  | _ => none

/-- A date in front of a word. -/
def date? : List Char → Option (List Char × List Char)
  | a :: b :: c :: d :: '-' :: m :: n :: '-' :: e :: f :: rest => do
    let year ← Text.digits? [a, b, c, d]
    let month ← Text.digits? [m, n]
    let day ← Text.digits? [e, f]
    let date ← Calendar.Date.of? year month day
    pure (date.text, rest)
  | _ => none

/-- A date, a time or both. -/
def dateTime? (word : List Char) : Option (List Char) :=
  match date? word with
  | some (date, []) => some date
  | some (date, mark :: rest) => do
    let (time, rest) ← time? rest
    if mark = 'T' || mark = 't' || mark = ' ' then
      pure (date ++ 'T' :: time ++ (← offset? rest))
    else none
  | none => do
    let (time, rest) ← time? word
    if rest = [] then some time else none

/-- The JSON form of a date. -/
def dateJson (text : List Char) : Json :=
  .object [("$__toml_private_datetime", .string (String.ofList text))]

/-- The value of a word. -/
def word? (word : List Char) : Option Json :=
  if word = "true".toList then some (.bool true)
  else if word = "false".toList then some (.bool false)
  else (dateTime? word).map dateJson <|> (integer? word).map .integer <|> (float? word).map .float

/-- A character of a word. -/
def isWordChar (c : Char) : Bool :=
  c.isAlphanum || c = '+' || c = '-' || c = '_' || c = '.' || c = ':'

/-- Reads a word. Between a date and a time there may be a space. -/
def word : Reader Json := do
  let first ← Reader.takeWhile isWordChar
  let cs ← Reader.rest
  match cs with
  | ' ' :: c :: _ =>
    if isWordChar c && (date? first).any (·.2 = []) then
      set (cs.drop 1)
      let second ← Reader.takeWhile isWordChar
      liftM (word? (first ++ ' ' :: second))
    else liftM (word? first)
  | _ => liftM (word? first)

end SqlProbe.Toml
