import FunctionConsole.Piece.ApiTabs
import FunctionConsole.Piece.CodeView
import FunctionConsole.Piece.FunctionFrame
import FunctionConsole.Screen.Code

/-!
# The code of a function, drawn

The editor on the left and the reference of the runtime on the right.
-/

namespace FunctionConsole.CodeScreen

/-- The columns of the reference. -/
def referenceWidth : Nat := 38

/-- How the text stands to the one that is saved. -/
def subtitle (s : CodeScreen) : String :=
  if s.saving then "Saving..."
  else
    match s.editing, s.editedCode.isSome with
    | true, true => "Editing · unsaved changes"
    | true, false => "Editing"
    | false, true => "Unsaved changes · press Ctrl+S to save"
    | false, false => "Press e to edit"

/-- The code. While it is only looked at, the row of the cursor is the first one shown. -/
def codeView (s : CodeScreen) : CodeView :=
  { lines := s.editor.lines
    cursor := if s.editing then some (s.editor.row, s.editor.col) else none
    scroll := if s.editing then 0 else s.editor.row }

/-- Draws the editor. -/
def drawEditor (s : CodeScreen) (area : Rect) (b : Buffer) : Buffer :=
  let card : Card := { title := "Code", subtitle := some s.subtitle, focused := s.editing }
  s.codeView.draw (card.inner area) (card.draw area b)

/-- Draws the reference. -/
def drawReference (s : CodeScreen) (area : Rect) (b : Buffer) : Buffer :=
  let card : Card := { title := "API Reference", subtitle := some "Tab / [ ] to switch" }
  ApiSection.drawTabs ApiSection.all s.apiTab (card.inner area) (card.draw area b)

/-- Draws the editor and the reference. -/
def drawContent (s : CodeScreen) (area : Rect) (b : Buffer) : Buffer :=
  let part := Layout.part (Layout.columns area [.fill 1, .length referenceWidth] 1)
  s.drawReference (part 1) (s.drawEditor (part 0) b)

/-- Draws the screen. -/
def draw (s : CodeScreen) : Rect → Buffer → Buffer :=
  drawFunctionFrame s.function (some .code) s.drawContent

end FunctionConsole.CodeScreen
