import FunctionConsole.Canvas.Rect
import FunctionConsole.Canvas.Style

/-!
# The cells of a screen

A screen is a grid of cells, each with a cluster of characters and a look. A cluster that takes two
cells stands in the first of them; the second is hidden behind it. What would fall outside the grid
is not drawn.
-/

namespace FunctionConsole

/-- A cell: its text and its look. -/
structure Cell where
  text : List Char := [' ']
  fg : Color := .reset
  bg : Color := .reset
  emphasis : Emphasis := {}
  deriving DecidableEq, Repr, Inhabited

namespace Cell

/-- The cell with a style applied. -/
def styled (c : Cell) (s : Style) : Cell :=
  { c with fg := s.fg.getD c.fg, bg := s.bg.getD c.bg, emphasis := c.emphasis.union s.emphasis }

/-- The cell with another text and a style applied. -/
def put (c : Cell) (text : List Char) (s : Style) : Cell := styled { c with text } s

/-- The cell with more text and a style applied. -/
def append (c : Cell) (text : List Char) (s : Style) : Cell :=
  styled { c with text := c.text ++ text } s

end Cell

/-- A grid of cells, row by row. -/
structure Buffer where
  width : Nat
  height : Nat
  cells : Array Cell
  deriving Repr, Inhabited

namespace Buffer

/-- A grid of empty cells. -/
def blank (width height : Nat) : Buffer := ⟨width, height, Array.replicate (width * height) {}⟩

/-- The whole grid as a rectangle. -/
def area (b : Buffer) : Rect := ⟨0, 0, b.width, b.height⟩

/-- The cell at a column and a row. -/
def cell? (b : Buffer) (x y : Nat) : Option Cell :=
  if x < b.width ∧ y < b.height then b.cells[y * b.width + x]? else none

/-- Changes the cell at a column and a row. -/
def modify (b : Buffer) (x y : Nat) (f : Cell → Cell) : Buffer :=
  if x < b.width ∧ y < b.height then
    { b with cells := b.cells.modify (y * b.width + x) f }
  else b

/-- Changes some cells of a row, from a column on. -/
def modifyRow (f : Cell → Cell) (y : Nat) : (count : Nat) → (x : Nat) → Buffer → Buffer
  | 0, _, b => b
  | n + 1, x, b => modifyRow f y n (x + 1) (b.modify x y f)

/-- Changes the cells of some rows of a rectangle. -/
def modifyRows (f : Cell → Cell) (x width : Nat) : (count : Nat) → (y : Nat) → Buffer → Buffer
  | 0, _, b => b
  | n + 1, y, b => modifyRows f x width n (y + 1) (modifyRow f y width x b)

/-- Changes the cells of a rectangle. -/
def modifyArea (b : Buffer) (r : Rect) (f : Cell → Cell) : Buffer :=
  let r := r.inter b.area
  modifyRows f r.x r.width r.height r.y b

/-- Applies a style to the cells of a rectangle. -/
def paint (b : Buffer) (r : Rect) (s : Style) : Buffer := b.modifyArea r fun c => c.styled s

/-- Empties the cells of a rectangle. -/
def clear (b : Buffer) (r : Rect) : Buffer := b.modifyArea r fun _ => {}

end Buffer

end FunctionConsole
