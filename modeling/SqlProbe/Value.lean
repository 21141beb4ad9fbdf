import SqlProbe.Calendar.Time
import SqlProbe.Number.Text
import SqlProbe.Text.Blank
import SqlProbe.Text.Utf8

/-!
# Values

The scalar values that queries bind and read back, their plain text, and their readings as a string
and as a whole number.
-/

namespace SqlProbe

/-- A scalar of SQL. -/
inductive Value where
  | null
  | bool (b : Bool)
  | int32 (n : Int32)
  | int64 (n : Int64)
  | float32 (x : Number.Binary32)
  | float64 (x : Number.Binary64)
  /-- A number of any precision, kept as text. -/
  | decimal (text : String)
  | string (text : String)
  | bytes (bytes : List UInt8)
  | date (date : Calendar.Date)
  | time (time : Calendar.TimeOfDay)
  | dateTime (t : Calendar.DateTime)
  /-- A point in time, in Coordinated Universal Time. -/
  | instant (t : Calendar.DateTime)
  deriving DecidableEq

namespace Value

/-- The plain text of a value. Bytes are read as UTF-8 where they are that. -/
def text : Value → String
  | null => "NULL"
  | bool b => if b then "true" else "false"
  | int32 n => String.ofList (Text.integer n.toInt)
  | int64 n => String.ofList (Text.integer n.toInt)
  | float32 x => String.ofList x.text
  | float64 x => String.ofList x.text
  | decimal s => s
  | string s => s
  | bytes b =>
    match Text.Utf8.decode? b with
    | some cs => String.ofList cs
    | none => s!"<{b.length} bytes>"
  | date d => String.ofList d.text
  | time t => String.ofList t.text
  | dateTime t => String.ofList t.text
  | instant t => String.ofList t.text ++ " UTC"

/-- The text of a string value. -/
def asString? : Value → Option String
  | string s => some s
  | _ => none

/-- The whole number that a value is or, as servers often send it, writes. -/
def asInt64? : Value → Option Int64
  | int32 n => some n.toInt64
  | int64 n => some n
  | bool b => some (if b then 1 else 0)
  | decimal s | string s => written s.toList
  | bytes b => (Text.Utf8.decode? b).bind written
  | _ => none
where
  /-- The numeral between blanks. -/
  written (cs : List Char) : Option Int64 := (Text.int64? (Text.trim cs)).map Int64.ofInt

end Value

end SqlProbe
