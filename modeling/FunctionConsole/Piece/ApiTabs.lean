import FunctionConsole.ApiReference
import FunctionConsole.Canvas.Layout
import FunctionConsole.Canvas.Paragraph
import FunctionConsole.Canvas.Tabs
import FunctionConsole.Theme

/-!
# The runtime reference on the screen

A tab for each section, and the calls of the active one.
-/

namespace FunctionConsole.ApiSection

/-- What is said of a call. -/
def itemLines (i : ApiItem) : List Line :=
  [{ spans :=
      [{ text := i.name, style := Theme.accent }, { text := "  " ++ i.kind, style := Theme.muted }] },
   .ofText ("  " ++ i.description) Theme.secondary]

/-- What is said of a section. -/
def text (s : ApiSection) : Paragraph :=
  { lines := .ofText s.description Theme.muted :: {} :: s.items.flatMap itemLines
    wrap := some false }

/-- Draws sections with one of them active; without an active one nothing is drawn. -/
def drawTabs (sections : List ApiSection) (active : Nat) (area : Rect) (b : Buffer) : Buffer :=
  match sections[active]? with
  | none => b
  | some s =>
    let part := Layout.part (Layout.rows area [.length 1, .length 1, .min 1])
    let tabs : Tabs :=
      { titles := sections.map fun s => .ofText s.name {}, active := some active, margin := ""
        style := Theme.secondary, activeStyle := Theme.activeTab }
    (tabs.draw (part 0) b).drawParagraph (part 2) s.text

end FunctionConsole.ApiSection
