import FunctionConsole.Canvas.Box
import FunctionConsole.Canvas.Paragraph
import FunctionConsole.Theme

/-!
# Cards

A section in a box, with a title and perhaps a line that explains it.
-/

namespace FunctionConsole

/-- What a card is about. -/
inductive CardTone where
  | plain
  | danger
  | care
  deriving DecidableEq, Repr, Inhabited

/-- The colour of a card's title and edges, unless they have their own. -/
def CardTone.color? : CardTone → Option Color
  | .plain => none
  | .danger => some Theme.badColor
  | .care => some Theme.careColor

/-- A section in a box. -/
structure Card where
  title : String
  subtitle : Option String := none
  tone : CardTone := .plain
  /-- The section has the keys. -/
  focused : Bool := false
  deriving DecidableEq, Repr, Inhabited

namespace Card

/-- The box of a card. -/
def box (c : Card) : Box :=
  let toned (s : Style) : Style := { s with fg := c.tone.color? <|> s.fg }
  { border := toned (if c.focused then Theme.activeEdge else Theme.edge)
    title := some { text := " " ++ c.title ++ " ", style := toned Theme.strong } }

/-- The area that is left for what a card holds. A subtitle takes two rows; it is left out if there
is but one. -/
def inner (c : Card) (area : Rect) : Rect :=
  let r := Box.inner area
  if c.subtitle.isSome ∧ 1 < r.height then { r with y := r.y + 2, height := r.height - 2 } else r

/-- Draws a card without what it holds. -/
def draw (c : Card) (area : Rect) (b : Buffer) : Buffer :=
  let b := b.drawBox area c.box
  let r := Box.inner area
  match c.subtitle with
  | some s => if 1 < r.height then b.drawLine (r.row 0) (.ofText s Theme.muted) else b
  | none => b

/-- Draws a card that holds a message. -/
def drawMessage (c : Card) (message : String) (area : Rect) (b : Buffer) : Buffer :=
  (c.draw area b).drawParagraph (c.inner area)
    { lines := [.ofText message Theme.secondary], wrap := some true }

end Card

end FunctionConsole
