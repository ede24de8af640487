import FunctionConsole.Canvas.Layout
import FunctionConsole.Canvas.Line
import FunctionConsole.Theme

/-!
# Tables

Rows of cells under a header, one of them selected. While a row is selected a column at the left is
kept free for its mark. The rows are scrolled just as far as the selected one needs to be seen.
-/

namespace FunctionConsole

/-- A table: the titles and the wishes of its columns, its rows, and the selected one. -/
structure Table where
  header : List String
  widths : List Wish
  rows : List (List Line)
  selected : Option Nat := none
  deriving Repr, Inhabited

namespace Table

/-- The mark of the selected row. -/
def mark : Span := { text := "▌" }

/-- The columns between two cells. -/
def gap : Nat := 2

/-- The selected row; a position beyond the last row counts as the last, and without rows there is
none. -/
def selectedRow? (t : Table) : Option Nat :=
  if t.rows.isEmpty then none else t.selected.map fun i => min i (t.rows.length - 1)

/-- The columns that are kept for the mark. -/
def markWidth (t : Table) : Nat := if t.selectedRow?.isSome then mark.width else 0

/-- The columns of a table in an area, right of the one for the mark. -/
def columns (t : Table) (area : Rect) : List Rect :=
  Layout.columns (area.dropColumns t.markWidth) t.widths gap

/-- The first row that is drawn when so many fit. -/
def firstRow (t : Table) (visible : Nat) : Nat := ((t.selectedRow?).getD 0 + 1) - visible

/-- The title of a column; its style covers the column. -/
def title (text : String) : Line := { spans := [{ text }], style := Theme.muted }

/-- Draws the cells of a row into columns, given by areas in any row. -/
def drawCells (columns : List Rect) (y : Nat) (cells : List Line) (b : Buffer) : Buffer :=
  (columns.zip cells).foldl (fun b (column, cell) => b.drawLine { column with y, height := 1 } cell) b

/-- Draws a row. -/
def drawRow (t : Table) (columns : List Rect) (row : Rect) (i : Nat) (cells : List Line) (b : Buffer) :
    Buffer :=
  let isSelected := t.selectedRow? = some i
  let b := if isSelected then b.drawSpan { row with width := t.markWidth } mark else b
  let b := drawCells columns row.y cells b
  if isSelected then b.paint row Theme.selectedRow else b

/-- Draws a table. -/
def draw (t : Table) (area : Rect) (b : Buffer) : Buffer :=
  let area := area.inter b.area
  if area.isEmpty then b
  else
    let columns := t.columns area
    let b := drawCells columns area.y (t.header.map title) b
    let visible := area.height - 1
    let first := t.firstRow visible
    (((t.rows.zipIdx).drop first).take visible).foldl
      (fun b (cells, i) => t.drawRow columns (area.row (1 + (i - first))) i cells b) b

end Table

end FunctionConsole
