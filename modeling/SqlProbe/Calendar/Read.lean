import SqlProbe.Calendar.Time
import SqlProbe.Text.Blank

/-!
# Reading dates and times

Dates and times in the international order of their parts. Blanks may stand before each number and
before each separator; a year may carry a sign and has at most four digits without one, all other
parts have at most two. A point in time names its distance from Coordinated Universal Time.
-/

namespace SqlProbe.Calendar.Read

/-- A reader answers with what it read and what is left. -/
abbrev Reader (α : Type) := List Char → Option (α × List Char)

/-- One to `most` digits. -/
def digits (most : Nat) : Reader Nat := fun cs =>
  let run := (cs.takeWhile Char.isDigit).take most
  if run = [] then none else some (Nat.ofDigitChars 10 run 0, cs.drop run.length)

/-- A number of one or two digits behind blanks, no greater than `limit`. -/
def number (limit : Nat) : Reader Nat := fun cs =>
  (digits 2 (Text.trimStart cs)).filter fun (n, _) => n ≤ limit

/-- A year behind blanks. -/
def year : Reader Int := fun cs =>
  match Text.trimStart cs with
  | '-' :: cs => (digits cs.length cs).map fun (n, cs) => (-(n : Int), cs)
  | '+' :: cs => (digits cs.length cs).map fun (n, cs) => ((n : Int), cs)
  | cs => (digits 4 cs).map fun (n, cs) => ((n : Int), cs)

/-- One character behind blanks. -/
def mark (c : Char) : Reader Unit := fun cs =>
  match Text.trimStart cs with
  | d :: cs => if d = c then some ((), cs) else none
  | [] => none

/-- A date. -/
def date : Reader Date := fun cs => do
  let (y, cs) ← year cs
  let (_, cs) ← mark '-' cs
  let (m, cs) ← number 12 cs
  let (_, cs) ← mark '-' cs
  let (d, cs) ← number 31 cs
  pure (← Date.of? y m d, cs)

/-- The nanoseconds of a fraction of a second: of its digits the first nine count. -/
def fraction : Reader Nat := fun cs =>
  match cs with
  | '.' :: cs =>
    let run := cs.takeWhile Char.isDigit
    let nine := run.take 9
    if run = [] then none
    else some (Nat.ofDigitChars 10 nine 0 * Nat.pow 10 (9 - nine.length), cs.drop run.length)
  | cs => some (0, cs)

/-- Hours and minutes. -/
def hourMinute : Reader (Nat × Nat) := fun cs => do
  let (h, cs) ← number 23 cs
  let (_, cs) ← mark ':' cs
  let (m, cs) ← number 59 cs
  pure ((h, m), cs)

/-- Seconds and nanoseconds behind a colon; second 60 is a leap second. -/
def seconds : Reader (Nat × Nat) := fun cs => do
  let (_, cs) ← mark ':' cs
  let (s, cs) ← number 60 cs
  let (n, cs) ← fraction cs
  pure (if s = 60 then (59, nanosPerSecond + n) else (s, n), cs)

/-- A time of day with seconds. -/
def time : Reader TimeOfDay := fun cs => do
  let ((h, m), cs) ← hourMinute cs
  let ((s, n), cs) ← seconds cs
  pure (← TimeOfDay.of? h m s n, cs)

/-- Minutes east of Greenwich: the letter Z, the name of Coordinated Universal Time, or a sign with
hours and minutes. -/
def zone : Reader Int := fun cs =>
  match cs with
  | 'Z' :: cs => some (0, cs)
  | 'z' :: cs => some (0, cs)
  | '+' :: cs => distance cs
  | '-' :: cs => (distance cs).map fun (n, cs) => (-n, cs)
  | '−' :: cs => (distance cs).map fun (n, cs) => (-n, cs)
  | a :: b :: c :: cs =>
    if [a, b, c].map Char.toUpper = ['U', 'T', 'C'] then some (0, cs) else none
  | _ => none
where
  twoDigits : List Char → Option (Nat × List Char)
    | a :: b :: cs =>
      if a.isDigit ∧ b.isDigit then some (Nat.ofDigitChars 10 [a, b] 0, cs) else none
    | _ => none
  distance (cs : List Char) : Option (Int × List Char) := do
    let (h, cs) ← twoDigits cs
    let (m, cs) ← twoDigits (cs.dropWhile fun c => c = ':' || Text.isBlank c)
    if 59 < m ∨ 23 < h then none else pure (((h * 60 + m : Nat) : Int), cs)

/-- What a reader reads from a whole text, up to blanks at its end. -/
def all? {α : Type} (reader : Reader α) (s : String) : Option α :=
  (reader s.toList).bind fun (a, rest) => if Text.trimStart rest = [] then some a else none

/-- The date that a text writes. -/
def date? (s : String) : Option Date := all? date s

/-- The time of day that a text writes; the seconds may be left out. -/
def time? (s : String) : Option TimeOfDay :=
  (all? time s).orElse fun _ => (all? hourMinute s).bind fun (h, m) => TimeOfDay.of? h m 0 0

/-- The date and time that a text writes, with the letter T between them. -/
def dateTime? (s : String) : Option DateTime :=
  all? (fun cs => do
    let (d, cs) ← date cs
    let (_, cs) ← mark 'T' cs
    let (t, cs) ← time cs
    pure (⟨d, t⟩, cs)) s

/-- The point in time that a text writes, with a letter T or a blank between date and time. -/
def instant? (s : String) : Option DateTime :=
  all? (fun cs => do
    let (d, cs) ← date cs
    match cs with
    | c :: cs =>
      if c = 't' ∨ c = 'T' ∨ c = ' ' then
        let (t, cs) ← time cs
        let (east, cs) ← zone (Text.trimStart cs)
        pure (← DateTime.minusMinutes? ⟨d, t⟩ east, cs)
      else none
    | [] => none) s

end SqlProbe.Calendar.Read
