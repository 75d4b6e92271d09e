import Switchyard.Text.Width
set_option autoImplicit false

/-! Tables with borders. Each column is as wide as its widest cell, with a blank on either side, and
cells are aligned to the left. A cell may hold several lines; its row is as high as its highest
cell. -/
namespace Switchyard.Text

structure Grid where
  header : List String
  rows : List (List String)

namespace Grid

def cellLines (cell : String) : List String := (cell.splitOn "\n")

def cellWidth (cell : String) : Nat := ((cellLines cell).map width).foldl max 0

def columnWidths (grid : Grid) : List Nat :=
  grid.rows.foldl (fun widths row => widths.zipWith max (row.map cellWidth))
    (grid.header.map cellWidth)

def pad (columns : Nat) (line : String) : String :=
  line ++ String.ofList (List.replicate (columns - width line) ' ')

/-- A border from its four marks. -/
def border (left fill middle right : String) (widths : List Nat) : String :=
  left ++ middle.intercalate (widths.map fun columns =>
    String.join (List.replicate (columns + 2) fill)) ++ right

def line (widths : List Nat) (cells : List String) : String :=
  "│ " ++ " ┆ ".intercalate (widths.zipWith pad cells) ++ " │"

def rowLines (widths : List Nat) (row : List String) : List String :=
  let cells := row.map cellLines
  let height := (cells.map List.length).foldl max 0
  (List.range height).map fun index =>
    line widths (cells.map fun lines => (lines[index]?).getD "")

def lines (grid : Grid) : List String :=
  let widths := grid.columnWidths
  [border "┌" "─" "┬" "┐" widths] ++ rowLines widths grid.header ++
    [border "╞" "═" "╪" "╡" widths] ++ grid.rows.flatMap (rowLines widths) ++
    [border "└" "─" "┴" "┘" widths]

end Grid

end Switchyard.Text
