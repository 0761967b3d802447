import BackOfEnvelope.DisplayWidth
import BackOfEnvelope.Text

/-!
# Tables of text

A table with rounded corners and a line below its header.  Cells are aligned to
the left with a space on either side, and a column is as wide as its widest line.
A cell with several lines makes its row as many lines high.
-/

namespace BackOfEnvelope

namespace TextTable

/-- The lines of a cell. -/
def cellLines (cell : String) : List String :=
  splitText '\n' cell

def cellWidth (cell : String) : Nat :=
  ((cellLines cell).map lineWidth).foldl max 0

/-- The greater width of each column. -/
def widenColumns : List Nat → List Nat → List Nat
  | width :: widths, other :: others => max width other :: widenColumns widths others
  | widths, [] => widths
  | [], widths => widths

/-- The widths of the columns of rows. -/
def columnWidths (rows : List (List String)) : List Nat :=
  rows.foldl (fun widths row => widenColumns widths (row.map cellWidth)) []

/-- A line between rows, with corners and crossings. -/
def rule (left crossing right : String) (widths : List Nat) : String :=
  let segments := widths.map fun width => String.ofList (List.replicate (width + 2) '─')
  left ++ crossing.intercalate segments ++ right

/-- A line of a cell with spaces up to the width of its column. -/
def padLine (width : Nat) (line : String) : String :=
  " " ++ line ++ String.ofList (List.replicate (width - lineWidth line) ' ') ++ " "

/-- The lines of a row. -/
def rowLines (widths : List Nat) (row : List String) : List String :=
  let cells := row.map cellLines
  let height := (cells.map List.length).foldl max 0
  (List.range height).map fun line =>
    let pieces := (widths.zip cells).map fun (width, cell) => padLine width (cell[line]?.getD "")
    "│" ++ "│".intercalate pieces ++ "│"

def draw (header : List String) (rows : List (List String)) : String :=
  let widths := columnWidths (header :: rows)
  let lines :=
    [rule "╭" "┬" "╮" widths] ++ rowLines widths header ++ [rule "├" "┼" "┤" widths] ++
      rows.flatMap (rowLines widths) ++ [rule "╰" "┴" "╯" widths]
  "\n".intercalate lines

end TextTable

end BackOfEnvelope
