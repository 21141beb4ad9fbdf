import SqlProbe.Text.Ascii
import SqlProbe.Value

/-!
# Query results

Rows of values under column labels. A label is looked up exactly first and then without regard to
the case of ASCII letters.
-/

namespace SqlProbe

/-- A row of a result. -/
structure Row where
  columns : List String
  values : List Value
  deriving DecidableEq

namespace Row

/-- The value at a position, counted from zero. -/
def get? (row : Row) (index : Nat) : Option Value := row.values[index]?

/-- The position of a label: the first that is equal, else the first that is equal up to case. -/
def position? (row : Row) (label : String) : Option Nat :=
  (row.columns.findIdx? (· == label)).orElse fun _ =>
    row.columns.findIdx? fun column => decide (Text.SameLetters column label)

/-- The value under a label. -/
def named? (row : Row) (label : String) : Option Value := (row.position? label).bind row.get?

end Row

/-- What a server says about a column. -/
structure Column where
  name : String := ""
  /-- The type on the wire. -/
  dataType : String := ""
  nullable : Bool := false
  /-- The position, counted from zero. -/
  ordinal : Nat := 0
  /-- The greatest display length. -/
  maxLength : Option Int := none
  deriving DecidableEq, Repr

/-- The answer to a query. -/
structure QueryResult where
  columns : List Column := []
  rows : List Row := []
  affectedRows : Nat := 0
  elapsedMillis : Nat := 0
  warnings : List String := []
  deriving DecidableEq

namespace QueryResult

/-- The first row. -/
def firstRow? (result : QueryResult) : Option Row := result.rows.head?

/-- The value under a label in the first row, or its first value: servers do not always repeat the
label that a query asked for. -/
def scalar? (result : QueryResult) (label : String) : Option Value :=
  result.firstRow?.bind fun row => (row.named? label).orElse fun _ => row.get? 0

end QueryResult

/-- The answer to a statement without rows. -/
structure StatementResult where
  affectedRows : Nat := 0
  lastInsertId : Option Nat := none
  elapsedMillis : Nat := 0
  deriving DecidableEq, Repr

end SqlProbe
