import FunctionConsole.Canvas.Line

/-!
# Boxes

A box with rounded corners around an area, with a title in its upper edge.
-/

namespace FunctionConsole

/-- A box: the style of its edges, its title, and a style for all its cells. -/
structure Box where
  border : Style
  title : Option Span := none
  style : Style := {}
  deriving DecidableEq, Repr, Inhabited

namespace Box

/-- What is left of an area inside the edges. -/
def inner (area : Rect) : Rect :=
  { x := min (area.x + 1) area.right
    y := min (area.y + 1) area.bottom
    width := area.width - 2
    height := area.height - 2 }

end Box

namespace Buffer

/-- Draws the sides of a box and then its corners, the upper left one last. -/
def drawEdges (b : Buffer) (area : Rect) (s : Style) : Buffer :=
  let put (c : Char) (cell : Cell) : Cell := cell.put [c] s
  let right := area.right - 1
  let bottom := area.bottom - 1
  let b := b.modifyArea { area with width := 1 } (put '│')
  let b := b.modifyArea { area with height := 1 } (put '─')
  let b := b.modifyArea { area with x := right, width := 1 } (put '│')
  let b := b.modifyArea { area with y := bottom, height := 1 } (put '─')
  let b := b.modify right bottom (put '╯')
  let b := b.modify right area.y (put '╮')
  let b := b.modify area.x bottom (put '╰')
  b.modify area.x area.y (put '╭')

/-- Draws a box. -/
def drawBox (b : Buffer) (area : Rect) (box : Box) : Buffer :=
  let area := area.inter b.area
  if area.isEmpty then b
  else
    let b := (b.paint area box.style).drawEdges area box.border
    match box.title with
    | none => b
    | some t => b.drawLine { area.row 0 with x := area.x + 1, width := min t.width (area.width - 2) }
        (.ofSpan t)

end Buffer

end FunctionConsole
