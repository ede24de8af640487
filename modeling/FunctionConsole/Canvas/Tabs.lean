import FunctionConsole.Canvas.Line

/-!
# Tabs

Titles side by side in one row, with blanks around each and a bar between them. What does not fit
is cut off.
-/

namespace FunctionConsole

/-- Titles side by side. -/
structure Tabs where
  titles : List Line
  /-- The position of the active title. -/
  active : Option Nat := none
  /-- What stands on both sides of a title. -/
  margin : String := " "
  style : Style := {}
  /-- The style of the active title. -/
  activeStyle : Style := {}
  deriving Repr, Inhabited

namespace Tabs

/-- What stands between two titles. -/
def bar : Line := .ofText "│" {}

/-- The parts of the row: margins, titles and bars; a title comes with its position. -/
def parts (t : Tabs) : List (Line × Option Nat) :=
  let margin : Line × Option Nat := (.ofText t.margin {}, none)
  List.intercalate [(bar, none)] <|
    t.titles.zipIdx.map fun (title, i) => [margin, (title, some i), margin]

/-- Draws parts one after another from a column on, up to the column `right`. -/
def drawParts (t : Tabs) (right y : Nat) : (x : Nat) → List (Line × Option Nat) → Buffer → Buffer
  | _, [], b => b
  | x, (part, i) :: rest, b =>
    if right ≤ x then b
    else
      let (b, x') := b.writeLine x y (right - x) part
      let b :=
        if i.isSome && i == t.active then b.paint ⟨x, y, x' - x, 1⟩ t.activeStyle else b
      drawParts t right y x' rest b

/-- Draws tabs in the first row of an area; their style covers the whole area. -/
def draw (t : Tabs) (area : Rect) (b : Buffer) : Buffer :=
  let area := area.inter b.area
  if area.isEmpty then b
  else t.drawParts area.right area.y area.x t.parts (b.paint area t.style)

end Tabs

end FunctionConsole
