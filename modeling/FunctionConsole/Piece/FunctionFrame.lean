import FunctionConsole.Canvas.Layout
import FunctionConsole.Piece.Header
import FunctionConsole.Piece.Placeholder

/-!
# What frames the screens of a function

The title of the function and the tabs of its screens. They are drawn only once the function has
arrived; until then nothing else of the screen is drawn either.
-/

namespace FunctionConsole

/-- Draws the title, the tabs, and a screen below them. -/
def drawFunctionFrame (function : Loadable Function) (tab : Option FunctionTab)
    (content : Rect → Buffer → Buffer) : Rect → Buffer → Buffer :=
  function.draw "function"
    (Card.drawMessage { title := "Function", tone := .danger } "Function not found")
    (fun f area b =>
      let areas := FunctionAreas.of area
      content areas.content (FunctionTab.drawBar tab areas.tabs (f.drawHeader areas.title b)))

end FunctionConsole
