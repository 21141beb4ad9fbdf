import SqlProbe.Text.Cut
import SqlProbe.Text.Width

/-!
# Tables

Rows under a header, drawn with lines. Every column is as wide as its widest line, but at least one
cell, with a blank on either side; rows that are too short are filled up.
-/

namespace SqlProbe

/-- Rows of texts under a header. -/
structure Table where
  columns : List String
  rows : List (List String)
  deriving DecidableEq, Repr

namespace Table

/-- The characters of a horizontal line. -/
structure Stroke where
  left : Char
  fill : Char
  cross : Char
  right : Char

/-- The line above the header. -/
def topStroke : Stroke := ⟨'┌', '─', '┬', '┐'⟩

/-- The line below the header. -/
def headerStroke : Stroke := ⟨'╞', '═', '╪', '╡'⟩

/-- The line between two rows. -/
def middleStroke : Stroke := ⟨'├', '╌', '┼', '┤'⟩

/-- The line below the last row. -/
def bottomStroke : Stroke := ⟨'└', '─', '┴', '┘'⟩

/-- The lines of a text. -/
def linesOf (s : String) : List (List Char) := Text.splitAtChar '\n' s.toList

/-- The width of a text of several lines, which is at least one. -/
def cellWidth (s : String) : Nat :=
  (linesOf s).foldl (fun widest line => max widest (Text.width line)) 1

/-- The number of columns, of which the header need not name all. -/
def columnCount (table : Table) : Nat :=
  table.rows.foldl (fun most row => max most row.length) table.columns.length

/-- The width of a column. -/
def columnWidth (table : Table) (column : Nat) : Nat :=
  (table.columns :: table.rows).foldl
    (fun widest row => max widest ((row[column]?.map cellWidth).getD 1)) 1

/-- The widths of all columns. -/
def columnWidths (table : Table) : List Nat := (List.range table.columnCount).map table.columnWidth

/-- A horizontal line over columns of the given widths. -/
def Stroke.draw (stroke : Stroke) (widths : List Nat) : List Char :=
  stroke.left :: List.intercalate [stroke.cross]
    (widths.map fun width => List.replicate (width + 2) stroke.fill) ++ [stroke.right]

/-- A line of a cell, with blanks up to the width of the column and one on either side. -/
def padLine (width : Nat) (line : List Char) : List Char :=
  ' ' :: line ++ List.replicate (width - Text.width line + 1) ' '

/-- The lines of a row in columns of the given widths. -/
def rowLines (widths : List Nat) (row : List String) : List (List Char) :=
  let cells := widths.mapIdx fun column width => (width, (row[column]?.map linesOf).getD [[]])
  let height := cells.foldl (fun most cell => max most cell.2.length) 0
  (List.range height).map fun i =>
    '│' :: List.intercalate ['┆'] (cells.map fun cell => padLine cell.1 (cell.2[i]?.getD [])) ++
      ['│']

/-- The lines of rows with a line between any two of them. -/
def bodyLines (widths : List Nat) : List (List String) → List (List Char)
  | [] => []
  | [row] => rowLines widths row
  | row :: rows => rowLines widths row ++ middleStroke.draw widths :: bodyLines widths rows

/-- The lines of a table. -/
def lines (table : Table) : List (List Char) :=
  let widths := table.columnWidths
  topStroke.draw widths :: rowLines widths table.columns ++ headerStroke.draw widths ::
    bodyLines widths table.rows ++ [bottomStroke.draw widths]

end Table

end SqlProbe
