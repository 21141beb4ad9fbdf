import SqlProbe.Calendar.Read
import SqlProbe.Json.Record
import SqlProbe.Value

/-!
# Values in JSON

A value is an object with one field, named for its type; null is a string of its own. Binary numbers
take whole numbers too, and dates are read leniently and written in one form.
-/

namespace SqlProbe.Json

open Number

/-- A binary number of a format, from a number of any form within the range. -/
def asBinary? (format : Format) : Json → Option (Binary format)
  | float x => if x.isFinite then some (x.convert format) else none
  | integer n => some (Binary.ofRatio format (n < 0) n.natAbs 1)
  | _ => none

/-- The content of a value of the type with the given name. -/
def content? (name : String) (content : Json) : Option Value :=
  match name with
  | "Null" => if content.isNull then some .null else none
  | "Bool" => content.asBool?.map .bool
  | "Int32" =>
    (asInteger? Int32.minValue.toInt Int32.maxValue.toInt content).map fun n => .int32 (Int32.ofInt n)
  | "Int64" =>
    (asInteger? Int64.minValue.toInt Int64.maxValue.toInt content).map fun n => .int64 (Int64.ofInt n)
  | "Float32" => (asBinary? binary32 content).map .float32
  | "Float64" => (asBinary? binary64 content).map .float64
  | "Decimal" => content.asString?.map .decimal
  | "String" => content.asString?.map .string
  | "Bytes" => (asList? (asNatural? 255) content).map fun ns => .bytes (ns.map UInt8.ofNat)
  | "Date" => (content.asString?.bind Calendar.Read.date?).map .date
  | "Time" => (content.asString?.bind Calendar.Read.time?).map .time
  | "DateTime" => (content.asString?.bind Calendar.Read.dateTime?).map .dateTime
  | "DateTimeUtc" => (content.asString?.bind Calendar.Read.instant?).map .instant
  | _ => none

/-- The value that a JSON value stands for. -/
def asValue? : Json → Option Value
  | string name => if name = "Null" then some .null else none
  | object [(name, content)] => content? name content
  | _ => none

/-- A text as a JSON string. -/
def ofChars (cs : List Char) : Json := string (String.ofList cs)

/-- The JSON form of a value. -/
def ofValue : Value → Json
  | .null => string "Null"
  | .bool b => object [("Bool", bool b)]
  | .int32 n => object [("Int32", integer n.toInt)]
  | .int64 n => object [("Int64", integer n.toInt)]
  | .float32 x => object [("Float32", single x)]
  | .float64 x => object [("Float64", float x)]
  | .decimal s => object [("Decimal", string s)]
  | .string s => object [("String", string s)]
  | .bytes b => object [("Bytes", array (b.map fun byte => natural byte.toNat))]
  | .date d => object [("Date", ofChars d.text)]
  | .time t => object [("Time", ofChars t.text)]
  | .dateTime t => object [("DateTime", ofChars (t.textWith 'T'))]
  | .instant t => object [("DateTimeUtc", ofChars (t.textWith 'T' ++ ['Z']))]

end SqlProbe.Json
