import SqlProbe.Mysql.ColumnType
import SqlProbe.Value

/-!
# Wire values

The values that a MySQL server sends, as text or in binary, and the values that they are read as.
What cannot be represented is kept as text.
-/

namespace SqlProbe.Mysql

/-- A value as a server sends it. -/
inductive Wire where
  | null
  | bytes (bytes : List UInt8)
  | int (n : Int64)
  | uint (n : UInt64)
  | float (x : Number.Binary32)
  | double (x : Number.Binary64)
  | date (year : UInt16) (month day hour minute second : UInt8) (micros : UInt32)
  | time (negative : Bool) (days : UInt32) (hours minutes seconds : UInt8) (micros : UInt32)
  deriving DecidableEq

namespace Wire

/-- A text in a column of a type. What does not write a number of that type is a string. -/
def ofText (type : ColumnType) (s : String) : Value :=
  match type.reading with
  | .integer => ((Text.int64? s.toList).map fun n => Value.int64 (Int64.ofInt n)).getD (.string s)
  | .single => ((Number.Binary.ofText? Number.binary32 s.toList).map Value.float32).getD (.string s)
  | .double => ((Number.Binary.ofText? Number.binary64 s.toList).map Value.float64).getD (.string s)
  | .decimal => .decimal s
  | .text => .string s

/-- Numbers with leading zeros and a mark between. -/
def joined (mark : Char) (fields : List (Nat × Nat)) : List Char :=
  List.intercalate [mark] (fields.map fun field => Text.padded field.1 field.2)

/-- A date without a time of day; one that is not in the calendar is kept as text. -/
def dateOnly (year month day : Nat) : Value :=
  match Calendar.Date.of? year month day with
  | some found => .date found
  | none => .string (String.ofList (joined '-' [(4, year), (2, month), (2, day)]))

/-- A date with a time of day; one that does not exist is kept as text, without its fraction. -/
def dateAndTime (year month day hour minute second micros : Nat) : Value :=
  let found := do
    let day ← Calendar.Date.of? year month day
    let clock ← Calendar.TimeOfDay.of? hour minute second (micros * 1000)
    pure (Value.dateTime ⟨day, clock⟩)
  found.getD (.string (String.ofList (joined '-' [(4, year), (2, month), (2, day)] ++
    ' ' :: joined ':' [(2, hour), (2, minute), (2, second)])))

/-- The hours of a span of days and hours. They are counted in a word of 32 bits; there are none where
they overflow it. -/
def totalHours (days : UInt32) (hours : UInt8) : Option Nat :=
  let total := 24 * days.toNat + hours.toNat
  if total < UInt32.size then some total else none

/-- The text of a span of time, whose days have been counted as hours. -/
def spanText (negative : Bool) (hours minutes seconds micros : Nat) : List Char :=
  (if negative then ['-'] else []) ++ joined ':' [(2, hours), (2, minutes), (2, seconds)] ++
    '.' :: Text.padded 6 micros

/-- The value that a wire value in a column of a type is read as. The reading of a span breaks off
where its hours overflow. -/
def toValue (type : ColumnType) : Wire → Option Value
  | null => some .null
  | bytes b => some <|
    match Text.Utf8.decode? b with
    | some cs => ofText type (String.ofList cs)
    | none => .bytes b
  | int n => some (.int64 n)
  | uint n => some <|
    if n.toNat < Nat.pow 2 63 then .int64 (Int64.ofNat n.toNat)
    else .decimal (String.ofList (Text.digits n.toNat))
  | float x => some (.float32 x)
  | double x => some (.float64 x)
  | date year month day hour minute second micros => some <|
    if hour = 0 ∧ minute = 0 ∧ second = 0 ∧ micros = 0 then
      dateOnly year.toNat month.toNat day.toNat
    else dateAndTime year.toNat month.toNat day.toNat hour.toNat minute.toNat second.toNat
      micros.toNat
  | time negative days hours minutes seconds micros =>
    (totalHours days hours).map fun total => .string <| String.ofList <|
      spanText negative total minutes.toNat seconds.toNat micros.toNat

/-- A cell of a row that answers a plain query: its bytes, or nothing. -/
def ofCell : Option (List UInt8) → Wire
  | none => .null
  | some b => .bytes b

/-- The value of a cell in a column of a type. A cell is no span, so its reading does not break
off. -/
def cellValue (type : ColumnType) (cell : Option (List UInt8)) : Value :=
  ((ofCell cell).toValue type).get (by cases cell <;> rfl)

end Wire

end SqlProbe.Mysql
