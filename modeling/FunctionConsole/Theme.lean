import FunctionConsole.Canvas.Box

/-!
# The look of the console

The colours by what they are for, the styles made of them, and the box that a window stands in. What
lies under a window is dimmed so that the window stands out.
-/

namespace FunctionConsole.Theme

-- ==================================================== colours

/-- The ground of everything behind a window. -/
def ground : Color := .black

/-- The ground of a window. -/
def windowGround : Color := .rgb 28 33 43

/-- The ground of a selected row. -/
def selectedGround : Color := .rgb 36 44 58

/-- The colour that draws attention. -/
def accentColor : Color := .cyan

/-- Plain text. -/
def primaryColor : Color := .white

/-- Text of less weight. -/
def secondaryColor : Color := .gray

/-- Text of least weight. -/
def mutedColor : Color := .darkGray

/-- Text on a filled ground. -/
def contrastColor : Color := .black

/-- Something went well. -/
def goodColor : Color := .green

/-- Something went wrong or is dangerous. -/
def badColor : Color := .red

/-- Something needs care. -/
def careColor : Color := .yellow

/-- Something to know. -/
def noteColor : Color := .blue

/-- The ground of a line that was added. -/
def addedGround : Color := .rgb 18 48 30

/-- The ground of a line that was removed. -/
def removedGround : Color := .rgb 56 20 24

-- ==================================================== styles

/-- Plain text. -/
def primary : Style := .ofFg primaryColor

/-- Text of less weight. -/
def secondary : Style := .ofFg secondaryColor

/-- Text of least weight. -/
def muted : Style := .ofFg mutedColor

/-- Titles and names. -/
def strong : Style := primary.bold

/-- The edge of a section. -/
def edge : Style := .ofFg .darkGray

/-- The edge of the section that has the keys. -/
def activeEdge : Style := .ofFg accentColor

/-- Text that draws attention. -/
def accent : Style := .ofFg accentColor

/-- Text that draws much attention. -/
def strongAccent : Style := accent.bold

/-- Text about something that went well. -/
def good : Style := .ofFg goodColor

/-- Text about something that went wrong. -/
def bad : Style := .ofFg badColor

/-- Text about something that needs care. -/
def care : Style := .ofFg careColor

/-- Bold text on a filled ground. -/
def filled (c : Color) : Style := ((Style.ofFg contrastColor).withBg c).bold

/-- The chip around the name of a key. -/
def keyChip : Style := (Style.ofFg contrastColor).withBg secondaryColor

/-- The selected row of a table. -/
def selectedRow : Style := (Style.ofBg selectedGround).bold

/-- The active tab. -/
def activeTab : Style := filled accentColor

-- ==================================================== windows

/-- The box of a window. -/
def window (title : Span) (border : Style) : Box :=
  { border, title := some title, style := .ofBg windowGround }

end FunctionConsole.Theme

namespace FunctionConsole.Buffer

/-- Dims the cells of an area; their text stays. -/
def veil (b : Buffer) (area : Rect) : Buffer :=
  b.paint area (Theme.muted.withBg Theme.ground)

end FunctionConsole.Buffer
