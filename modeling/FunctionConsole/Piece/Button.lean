import FunctionConsole.Canvas.Paragraph
import FunctionConsole.Theme

/-!
# Buttons and menus

A menu has labels one below the other, one of them chosen.
-/

namespace FunctionConsole

/-- How much weight a button has. -/
inductive ButtonTone where
  | primary
  | secondary
  | danger
  deriving DecidableEq, Repr, Inhabited

/-- The ground of a button. -/
def ButtonTone.color : ButtonTone → Color
  | .primary => Theme.accentColor
  | .secondary => Theme.secondaryColor
  | .danger => Theme.badColor

/-- A button. -/
structure Button where
  label : String
  tone : ButtonTone := .primary
  focused : Bool := false
  disabled : Bool := false
  deriving DecidableEq, Repr, Inhabited

namespace Button

/-- The style of a button; one that is disabled does not show that it has the keys. -/
def style (b : Button) : Style :=
  if b.disabled then Theme.muted.withBg Theme.selectedGround
  else if b.focused then (Theme.filled b.tone.color).underlined
  else Theme.filled b.tone.color

/-- A button as a part of a line. -/
def span (b : Button) : Span :=
  { text := (if b.focused && !b.disabled then "▸" else " ") ++ b.label ++ " ", style := b.style }

/-- The cells that a button takes. -/
def width (b : Button) : Nat := b.span.width

/-- Draws a button. -/
def draw (button : Button) (area : Rect) (b : Buffer) : Buffer :=
  b.drawParagraph area (.ofSpan button.span)

end Button

/-- Draws the labels of some items, the chosen one marked. -/
def drawMenu {α : Type} [DecidableEq α] (items : List α) (label : α → String) (chosen : α)
    (area : Rect) (b : Buffer) : Buffer :=
  b.drawParagraph area
    { lines := items.map fun i =>
        if i = chosen then .ofText ("▌" ++ label i) Theme.activeTab
        else .ofText (" " ++ label i) Theme.secondary }

end FunctionConsole
