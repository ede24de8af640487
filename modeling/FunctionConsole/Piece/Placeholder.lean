import FunctionConsole.Piece.Card
import FunctionConsole.Screen.Basic

/-!
# Placeholders

What stands in the place of data that is still on the way or not to be had.
-/

namespace FunctionConsole

/-- Draws that something is on the way, in the middle of an area. -/
def drawLoading (what : String) (area : Rect) (b : Buffer) : Buffer :=
  b.drawParagraph (area.row (area.height / 2))
    { lines := [.ofText ("Loading " ++ what ++ "...") Theme.muted], align := .center }

/-- Draws a hint in the place of what there is not. -/
def drawHint (text : String) (area : Rect) (b : Buffer) : Buffer :=
  b.drawParagraph area { lines := [.ofText text Theme.muted] }

/-- Draws data that has arrived, or what stands in its place. -/
def Loadable.draw {α : Type} (data : Loadable α) (what : String)
    (missing : Rect → Buffer → Buffer) (loaded : α → Rect → Buffer → Buffer) (area : Rect)
    (b : Buffer) : Buffer :=
  match data with
  | .loading => drawLoading what area b
  | .notFound => missing area b
  | .loaded a => loaded a area b

end FunctionConsole
