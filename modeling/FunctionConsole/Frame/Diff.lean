import FunctionConsole.Piece.DiffView
import FunctionConsole.Piece.FunctionFrame
import FunctionConsole.Screen.Diff

/-!
# The difference between two versions, drawn
-/

namespace FunctionConsole

/-- Draws a difference from a line on, with the legend above it. -/
def VersionDiff.draw (d : VersionDiff) (scroll : Nat) (area : Rect) (b : Buffer) : Buffer :=
  let part := Layout.part (Layout.rows area [.length 1, .length 1, .min 1])
  (DiffView.mk d.diff scroll).draw (part 2) (b.drawLine (part 0) d.legend)

namespace DiffScreen

/-- Draws the card of a difference. -/
def drawDiff (s : DiffScreen) (d : VersionDiff) (area : Rect) (b : Buffer) : Buffer :=
  let card : Card := { title := "Version Diff", subtitle := some s.subtitle }
  d.draw s.scroll (card.inner area) (card.draw area b)

/-- Draws the screen. If the function or the difference is not to be had, nothing else is drawn. -/
def draw (s : DiffScreen) (area : Rect) (b : Buffer) : Buffer :=
  let missing := Card.drawMessage { title := "Version Diff", tone := .danger } "Diff not found"
  if s.function.isNotFound || s.diff.isNotFound then missing area b
  else drawFunctionFrame s.function none (s.diff.draw "diff" missing s.drawDiff) area b

end DiffScreen

end FunctionConsole
