import FunctionConsole.Canvas.Box
import FunctionConsole.Canvas.Paragraph
import FunctionConsole.Dialog
import FunctionConsole.Piece.KeyHints
import FunctionConsole.Theme

/-!
# The window of a question

In the middle of the screen: the question, and the keys for yes and no.
-/

namespace FunctionConsole.Dialog

/-- The columns of the window. -/
def windowWidth : Nat := 56

/-- The rows that are kept for the question, counted in words of 16 bits: those that it would fill
if it were broken anywhere. -/
def messageRows (d : Dialog) : UInt16 :=
  let textWidth := windowWidth - 4
  UInt16.ofNat (max ((Text.width d.message.toList + (textWidth - 1)) / textWidth) 1)

/-- The area of the window. -/
def windowArea (d : Dialog) (area : Rect) : Rect :=
  .centered windowWidth (d.messageRows + 5).toNat area

/-- The area of the question within the edges of the window. -/
def messageArea (d : Dialog) (inner : Rect) : Rect :=
  { x := inner.x + 1, y := inner.y + 1, width := inner.width - 2
    height := min d.messageRows.toNat (inner.height - 1) }

/-- The question in the window. -/
def messageText (d : Dialog) : Paragraph :=
  { lines := (Text.lines d.message).map fun l => .ofText l {}
    wrap := some true, style := Theme.primary }

/-- The keys for yes and no. -/
def answers : Paragraph :=
  { lines :=
      [{ spans :=
          [keyChip "y", { text := " Yes   ", style := Theme.secondary }, keyChip "n",
           { text := " No", style := Theme.secondary }] }]
    align := .right }

/-- Draws the window over a dimmed screen. -/
def draw (d : Dialog) (area : Rect) (b : Buffer) : Buffer :=
  let color := if d.danger then Theme.badColor else Theme.accentColor
  let rect := d.windowArea area
  let inner := Box.inner rect
  let title : Span := { text := " " ++ d.title ++ " ", style := Theme.strong.withFg color }
  let b := ((b.veil area).clear rect).drawBox rect (Theme.window title (.ofFg color))
  let b := b.drawParagraph (d.messageArea inner) d.messageText
  if 0 < inner.height then
    b.drawParagraph { inner.row (inner.height - 1) with width := inner.width - 1 } answers
  else b

end FunctionConsole.Dialog
