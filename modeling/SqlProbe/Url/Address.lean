import SqlProbe.Text.Cut
import SqlProbe.Text.Numeral

/-!
# Internet addresses

Addresses of both versions as they stand in a URL. An address of version 6 is eight groups, of which
one run of zero groups may be left out and the last two may be written as four decimal numbers; it
is written back with the first longest run of two or more zero groups left out.
-/

namespace SqlProbe.Url

/-- A group of one to four hexadecimal digits. -/
def group? (cs : List Char) : Option Nat :=
  if cs = [] ∨ 4 < cs.length then none
  else cs.foldlM (fun n c => (Text.hexDigit? c).map fun d => n * 16 + d) 0

/-- A decimal number up to 255 that does not begin with a superfluous zero. -/
def octet? (cs : List Char) : Option Nat :=
  if cs.head? = some '0' ∧ cs ≠ ['0'] then none else (Text.digits? cs).filter (· ≤ 255)

/-- Two groups written as four decimal numbers with points between. -/
def dotted? (cs : List Char) : Option (List Nat) := do
  match ← (Text.splitAtChar '.' cs).mapM octet? with
  | [a, b, c, d] => some [a * 256 + b, c * 256 + d]
  | _ => none

/-- Groups with colons between; with `mayEndDotted` the last may be two written in decimal. -/
def groups? (mayEndDotted : Bool) (cs : List Char) : Option (List Nat) :=
  if cs = [] then some []
  else
    let parts := Text.splitAtChar ':' cs
    let last := parts.getLastD []
    if mayEndDotted && last.contains '.' then do
      pure ((← parts.dropLast.mapM group?) ++ (← dotted? last))
    else parts.mapM group?

/-- The texts before and behind the first pair of colons. -/
def cutAtPair? : List Char → Option (List Char × List Char)
  | ':' :: ':' :: rest => some ([], rest)
  | c :: rest => (cutAtPair? rest).map fun (a, b) => (c :: a, b)
  | [] => none

/-- The eight groups of an address of version 6. -/
def ipv6? (cs : List Char) : Option (List Nat) :=
  match cutAtPair? cs with
  | none => (groups? true cs).filter fun groups => groups.length = 8
  | some (before, behind) => do
    let before ← groups? false before
    let behind ← groups? true behind
    let given := before.length + behind.length
    if given ≤ 7 then pure (before ++ List.replicate (8 - given) 0 ++ behind) else none

/-- The length of the run of zeros at the head of a list. -/
def zeroRun (groups : List Nat) : Nat := (groups.takeWhile (· == 0)).length

/-- The longest run of zeros in a list, as its place and its length, the first among equals. -/
def longestZeroRun : List Nat → Nat × Nat
  | [] => (0, 0)
  | group :: rest =>
    let here := zeroRun (group :: rest)
    let (place, length) := longestZeroRun rest
    if length ≤ here then (0, here) else (place + 1, length)

/-- Groups with colons between. -/
def groupsText (groups : List Nat) : List Char :=
  [':'].intercalate (groups.map (Nat.toDigits 16))

/-- The text of an address of version 6. -/
def ipv6Text (groups : List Nat) : List Char :=
  let (place, length) := longestZeroRun groups
  if length < 2 then groupsText groups
  else groupsText (groups.take place) ++ [':', ':'] ++ groupsText (groups.drop (place + length))

/-- A number of an address of version 4: decimal, octal behind a zero, or hexadecimal behind `0x`.
The outer option says whether it is a number at all, the inner one whether it is small enough. -/
def number4? (cs : List Char) : Option Nat :=
  match cs with
  | [] => none
  | ['0'] => some 0
  | '0' :: 'x' :: rest => radix 16 rest
  | '0' :: rest => radix 8 rest
  | _ => radix 10 cs
where
  radix (base : Nat) (cs : List Char) : Option Nat :=
    cs.foldlM (fun n c => ((Text.hexDigit? c).filter (· < base)).map fun d => n * base + d) 0

/-- The parts of a name between its points, without an empty last one. -/
def labels (cs : List Char) : List (List Char) :=
  let parts := Text.splitAtChar '.' cs
  if 1 < parts.length ∧ parts.getLast? = some [] then parts.dropLast else parts

/-- The last part of a name is a number, so that the name has to be an address of version 4. -/
def endsInNumber (cs : List Char) : Bool :=
  match (labels cs).getLast? with
  | some [] => false
  | some last => last.all Char.isDigit || (number4? last).isSome
  | none => false

/-- The name is an address of version 4: at most four numbers, of which all but the last are bytes
and the last fills the bytes that are left. -/
def isIpv4 (cs : List Char) : Bool :=
  let parts := labels cs
  match parts.mapM number4? with
  | none => false
  | some numbers =>
    numbers.length ≤ 4 && numbers.dropLast.all (· ≤ 255) &&
      numbers.getLastD 0 < Nat.pow 256 (5 - numbers.length)

end SqlProbe.Url
