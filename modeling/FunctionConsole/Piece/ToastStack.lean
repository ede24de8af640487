import FunctionConsole.Canvas.Box
import FunctionConsole.Canvas.Paragraph
import FunctionConsole.Theme
import FunctionConsole.Toasts

/-!
# Toasts on the screen

The newest toasts stand in the upper right corner, one below the other, the newest on top. A toast
that does not fit any more ends the stack.
-/

namespace FunctionConsole.ToastStack

/-- The most columns of a toast. -/
def maxWidth : Nat := 44

/-- The fewest columns in which toasts are shown. -/
def minWidth : Nat := 10

/-- The most toasts that are shown. -/
def maxCount : Nat := 5

/-- The colour of a kind. -/
def color : ToastKind → Color
  | .success => Theme.goodColor
  | .error => Theme.badColor
  | .info => Theme.noteColor

/-- The sign of a kind. -/
def icon : ToastKind → String
  | .success => "✓"
  | .error => "✗"
  | .info => "ℹ"

/-- The rows of a toast in so many columns, counted in words of 16 bits: those that its text would
fill if it were broken anywhere, and the edges. -/
def height (message : String) (width : Nat) : UInt16 :=
  let textWidth := max (width - 6) 1
  let lines := max ((Text.width message.toList + (textWidth - 1)) / textWidth) 1
  UInt16.ofNat lines + 2

/-- The text of a toast. -/
def text (t : Toast) : Paragraph :=
  { lines :=
      [{ spans :=
          [{ text := icon t.kind ++ " ", style := .ofFg (color t.kind) },
           { text := t.message, style := Theme.primary }] }]
    wrap := some true }

/-- Draws a toast. -/
def drawToast (t : Toast) (area : Rect) (b : Buffer) : Buffer :=
  let box : Box := { border := .ofFg (color t.kind), style := .ofBg Theme.windowGround }
  ((b.clear area).drawBox area box).drawParagraph (Box.inner area) (text t)

/-- Draws toasts one below the other as long as they fit. -/
def drawFrom (area : Rect) : (y : Nat) → List Toast → Buffer → Buffer
  | _, [], b => b
  | y, t :: ts, b =>
    let h := (height t.message area.width).toNat
    if area.bottom < y + h then b
    else drawFrom area (y + h) ts (drawToast t { area with y, height := h } b)

/-- Draws the newest toasts. -/
def draw (ts : List Toast) (area : Rect) (b : Buffer) : Buffer :=
  let width := min maxWidth area.width
  if width < minWidth then b
  else
    drawFrom { area with x := area.right - width, width } area.y (ts.reverse.take maxCount) b

end FunctionConsole.ToastStack
