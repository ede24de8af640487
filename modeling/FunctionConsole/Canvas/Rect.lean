/-!
# Rectangles of cells

Where something is drawn. Columns count from the left and rows from the top; a rectangle may be
empty.
-/

namespace FunctionConsole

/-- A rectangle of cells. -/
structure Rect where
  x : Nat
  y : Nat
  width : Nat
  height : Nat
  deriving DecidableEq, Repr, Inhabited

namespace Rect

/-- The column after the last one. -/
def right (r : Rect) : Nat := r.x + r.width

/-- The row after the last one. -/
def bottom (r : Rect) : Nat := r.y + r.height

/-- Whether a rectangle has no cell. -/
def isEmpty (r : Rect) : Bool := r.width == 0 || r.height == 0

/-- The common cells of two rectangles. -/
def inter (a b : Rect) : Rect :=
  let x := max a.x b.x
  let y := max a.y b.y
  { x, y, width := min a.right b.right - x, height := min a.bottom b.bottom - y }

/-- The rectangle without its first columns. -/
def dropColumns (r : Rect) (n : Nat) : Rect := { r with x := r.x + n, width := r.width - n }

/-- A row of the rectangle, counted from its first. -/
def row (r : Rect) (n : Nat) : Rect := { r with y := r.y + n, height := 1 }

/-- The rectangle without its outermost columns. -/
def inset (r : Rect) : Rect := { r with x := r.x + 1, width := r.width - 2 }

/-- A rectangle of a size in the middle of an area, no larger than the area. -/
def centered (width height : Nat) (area : Rect) : Rect :=
  let w := min width area.width
  let h := min height area.height
  ⟨area.x + (area.width - w) / 2, area.y + (area.height - h) / 2, w, h⟩

/-- A rectangle of a size in the middle of an area's columns, some rows below its top. -/
def topCentered (width height top : Nat) (area : Rect) : Rect :=
  let w := min width area.width
  let y := area.y + min top (area.height - 1)
  ⟨area.x + (area.width - w) / 2, y, w, min height (area.bottom - y)⟩

end Rect

end FunctionConsole
