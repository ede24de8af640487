import FunctionConsole.Canvas.Paragraph
import FunctionConsole.Canvas.Tabs
import FunctionConsole.Piece.Badge
import FunctionConsole.Piece.KeyHints
import FunctionConsole.Resource.Function
import FunctionConsole.Route

/-!
# Headers

The bar at the top with the trail of the screen, the title of a function, and the tabs of a
function's screens.
-/

namespace FunctionConsole

namespace TrailBar

/-- What stands between two steps of a trail. -/
def arrow : String := " › "

/-- The steps of a trail; the last one is where the user is. -/
def steps : List String → List Span
  | [] => []
  | [step] => [{ text := step, style := Theme.strong }]
  | step :: rest =>
    { text := step, style := Theme.secondary } :: { text := arrow, style := Theme.muted } ::
      steps rest

/-- The name of the program and the trail. -/
def line (trail : List String) : Line :=
  { spans := { text := " ◐ Lunar ", style := Theme.strongAccent } :: { text := " " } :: steps trail }

/-- The hint how to search. -/
def hint : Line := { spans := [keyChip "Ctrl+K", { text := " search ", style := Theme.muted }] }

/-- Whether the hint has room beside the trail; the columns are counted in words of 16 bits. -/
def hasRoom (trail : List String) (width : Nat) : Bool :=
  let trailWidth := Text.width (String.intercalate arrow trail).toList
  UInt16.ofNat hint.width + UInt16.ofNat trailWidth + 12 < UInt16.ofNat width

/-- Draws the bar, with the hint at its right end if it is asked for. -/
def draw (trail : List String) (search : Bool) (area : Rect) (b : Buffer) : Buffer :=
  if area.height = 0 then b
  else
    let b := b.drawLine area (line trail)
    if search && hasRoom trail area.width then
      b.drawLine { area.row 0 with x := area.right - hint.width, width := hint.width } hint
    else b

end TrailBar

namespace Function

/-- The name of a function, its id, its version and whether it takes requests. -/
def titleLine (f : Function) : Line :=
  { spans :=
      [{ text := " " }, { text := f.name, style := Theme.strong }, { text := "  " }, idSpan f.id,
       { text := "  " }, (Badge.ofVersion f.versionLabel).span, { text := " " },
       (Badge.ofDisabled f.disabled).span] }

/-- The description of a function, or that there is none. -/
def descriptionLine (f : Function) : Line :=
  match f.descriptionText with
  | some text => .ofText (" " ++ text) Theme.secondary
  | none => .ofText " No description" Theme.muted

/-- Draws the title of a function. -/
def drawHeader (f : Function) (area : Rect) (b : Buffer) : Buffer :=
  b.drawParagraph area { lines := [f.titleLine, f.descriptionLine] }

end Function

namespace FunctionTab

/-- The key of a tab and its label. -/
def title (t : FunctionTab) : Line :=
  { spans := [{ text := toString (t.index + 1) ++ " ", style := Theme.muted }, { text := t.label }] }

/-- Draws the tabs of a function's screens, a column free on both sides. -/
def drawBar (active : Option FunctionTab) (area : Rect) (b : Buffer) : Buffer :=
  let tabs : Tabs :=
    { titles := all.map title, active := active.map index
      style := Theme.secondary, activeStyle := Theme.activeTab }
  tabs.draw area.inset b

end FunctionTab

end FunctionConsole
