import Broadband.Text.Width

/-!
# Grids

A table of texts drawn with lines. A column is as wide as its widest line, with one blank on either
side, and a cell may have several lines; the row is then as high as its highest cell.
-/

namespace Broadband.Text.Grid

/-! ## Cells -/

/-- The lines of a cell: a cell is cut at each line feed, and the empty cell is one empty line. -/
def cellLines : List Char → List (List Char)
  | [] => [[]]
  | '\n' :: cs => [] :: cellLines cs
  | c :: cs =>
    match cellLines cs with
    | [] => [[c]]
    | l :: ls => (c :: l) :: ls

/-- A row: the lines of each of its cells. -/
abbrev Row := List (List (List Char))

/-- The row of some texts. -/
def Row.ofTexts (cells : List String) : Row := cells.map fun s => cellLines s.toList

/-- The width of a cell. -/
def cellWidth (cell : List (List Char)) : Nat := (cell.map width).foldl max 0

/-- The widths of the columns of some rows, which have as many cells as the first of them. -/
def columnWidths : List Row → List Nat
  | [] => []
  | [row] => row.map cellWidth
  | row :: rows => (row.map cellWidth).zipWith max (columnWidths rows)

/-! ## Lines -/

/-- How a line across the grid is drawn: its start, its stroke, its crossings and its end. -/
structure Rule where
  start : String
  stroke : String
  crossing : String
  finish : String
  deriving DecidableEq, Repr

/-- The line above everything. -/
def topRule : Rule := ⟨"┌", "─", "┬", "┐"⟩

/-- The line below the header. -/
def headerRule : Rule := ⟨"╞", "═", "╪", "╡"⟩

/-- The line between two rows. -/
def rowRule : Rule := ⟨"├", "╌", "┼", "┤"⟩

/-- The line below everything. -/
def bottomRule : Rule := ⟨"└", "─", "┴", "┘"⟩

/-- A text several times over. -/
def repeated (s : String) (n : Nat) : String := String.join (List.replicate n s)

/-- A line across the grid. -/
def Rule.draw (r : Rule) (widths : List Nat) : String :=
  r.start ++ r.crossing.intercalate (widths.map fun w => repeated r.stroke (w + 2)) ++ r.finish

/-- A line of a cell, filled up with blanks. -/
def padded (w : Nat) (line : List Char) : String :=
  " " ++ String.ofList line ++ repeated " " (w - width line) ++ " "

/-- The lines of a row. -/
def drawRow (widths : List Nat) (row : Row) : List String :=
  let height := (row.map List.length).foldl max 0
  (List.range height).map fun i =>
    "│" ++ "┆".intercalate ((widths.zip row).map fun (w, cell) => padded w (cell.getD i [])) ++ "│"

/-- The rows with a line between each two of them. -/
def drawRows (widths : List Nat) : List Row → List String
  | [] => []
  | [row] => drawRow widths row
  | row :: rows => drawRow widths row ++ rowRule.draw widths :: drawRows widths rows

/-- The grid of a header and some rows. -/
def draw (header : List String) (rows : List (List String)) : String :=
  let head := Row.ofTexts header
  let body := rows.map Row.ofTexts
  let widths := columnWidths (head :: body)
  "\n".intercalate
    ([topRule.draw widths] ++ drawRow widths head ++ [headerRule.draw widths] ++
      drawRows widths body ++ [bottomRule.draw widths])

end Broadband.Text.Grid
