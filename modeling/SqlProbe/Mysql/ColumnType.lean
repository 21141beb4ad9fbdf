/-!
# Column types

The types that a MySQL server gives its columns, and how a text in a column of each type is read.
-/

namespace SqlProbe.Mysql

/-- The type of a column on the wire. -/
inductive ColumnType where
  | decimal
  | tiny
  | short
  | long
  | float
  | double
  | null
  | timestamp
  | longLong
  | int24
  | date
  | time
  | dateTime
  | year
  | newDate
  | varChar
  | bit
  | timestamp2
  | dateTime2
  | time2
  | typedArray
  | vector
  | unknown
  | json
  | newDecimal
  | enumeration
  | set
  | tinyBlob
  | mediumBlob
  | longBlob
  | blob
  | varString
  | string
  | geometry
  deriving DecidableEq, Repr

namespace ColumnType

/-- The types with their names. -/
def names : List (ColumnType × String) :=
  [(decimal, "DECIMAL"), (tiny, "TINY"), (short, "SHORT"), (long, "LONG"), (float, "FLOAT"),
    (double, "DOUBLE"), (null, "NULL"), (timestamp, "TIMESTAMP"), (longLong, "LONGLONG"),
    (int24, "INT24"), (date, "DATE"), (time, "TIME"), (dateTime, "DATETIME"), (year, "YEAR"),
    (newDate, "NEWDATE"), (varChar, "VARCHAR"), (bit, "BIT"), (timestamp2, "TIMESTAMP2"),
    (dateTime2, "DATETIME2"), (time2, "TIME2"), (typedArray, "TYPED_ARRAY"), (vector, "VECTOR"),
    (unknown, "UNKNOWN"), (json, "JSON"), (newDecimal, "NEWDECIMAL"), (enumeration, "ENUM"),
    (set, "SET"), (tinyBlob, "TINY_BLOB"), (mediumBlob, "MEDIUM_BLOB"), (longBlob, "LONG_BLOB"),
    (blob, "BLOB"), (varString, "VAR_STRING"), (string, "STRING"), (geometry, "GEOMETRY")]

/-- The name of a type. -/
def name (type : ColumnType) : String := "MYSQL_TYPE_" ++ (names.lookup type).getD ""

/-- The type with a name, which stands without its common beginning. -/
def ofName? (name : String) : Option ColumnType :=
  (names.find? fun entry => entry.2 == name).map (·.1)

/-- What the texts of a column write. -/
inductive Reading where
  | integer
  | single
  | double
  | decimal
  | text
  deriving DecidableEq, Repr

/-- What the texts of a column of this type write. -/
def reading : ColumnType → Reading
  | tiny | short | long | longLong | int24 | year => .integer
  | float => .single
  | double => .double
  | decimal | newDecimal => .decimal
  | _ => .text

end ColumnType

end SqlProbe.Mysql
