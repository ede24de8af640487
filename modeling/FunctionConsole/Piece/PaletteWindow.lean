import FunctionConsole.Canvas.Box
import FunctionConsole.Canvas.Paragraph
import FunctionConsole.Palette
import FunctionConsole.Piece.Badge
import FunctionConsole.Piece.KeyHints
import FunctionConsole.Theme

/-!
# The window of the palette

Near the top of the screen: the query, the entries that match it, and the keys. The matches are
scrolled just as far as the highlighted one needs to be seen.
-/

namespace FunctionConsole.Palette

/-- The columns of the window. -/
def windowWidth : Nat := 64

/-- The rows of the window. -/
def windowHeight : Nat := 18

/-- The query, or what may be typed. -/
def queryLine (p : Palette) : Line :=
  let sign : Span := { text := "› ", style := Theme.accent }
  if p.query.isEmpty then
    { spans := [sign, { text := "Search functions and pages...", style := Theme.muted }] }
  else
    { spans :=
        [sign, { text := p.query.value, style := Theme.primary },
         { text := "█", style := Theme.accent }] }

/-- The first match that is drawn in so many rows. -/
def offset (selected rows : Nat) : Nat := if rows = 0 then 0 else selected - (rows - 1)

/-- The sign in front of an entry. -/
def icon : PaletteItemKind → String
  | .navigation => "→ "
  | .function => "λ "

/-- The name of an entry, with the marks of one that is highlighted or leads to a disabled
function. -/
def nameSpans (item : PaletteItem) (selected : Bool) : List Span :=
  [{ text := if selected then "▌" else " ", style := Theme.accent },
   { text := icon item.kind, style := Theme.muted },
   { text := item.label, style := Theme.primary }] ++
  if item.disabled then [{ text := " " }, (Badge.ofDisabled true).span] else []

/-- The description of an entry at the right edge, given how many columns the name takes; it is left
out where hardly any room is left. -/
def descriptionSpans (description : String) (used width : Nat) : List Span :=
  let room := width - (used + 2)
  if 4 < room then
    let text := Text.padRight description.toList room
    let gap := max (width - (used + Text.width text + 1)) 1
    [.gap gap, { text := String.ofList text, style := Theme.muted }]
  else []

/-- The row of an entry. -/
def itemLine (item : PaletteItem) (selected : Bool) (width : Nat) : Line :=
  let name := nameSpans item selected
  { spans := name ++ descriptionSpans item.description (spansWidth name) width
    style := if selected then .ofBg Theme.selectedGround else {} }

/-- What is said instead of the matches. -/
def message? (p : Palette) : Option String :=
  if p.loading then some "Loading..."
  else if p.filtered.isEmpty then some "No results found"
  else none

/-- The rows of the matches in an area. -/
def visible (p : Palette) (area : Rect) : List Line :=
  (((p.results.zipIdx).drop (offset p.selected area.height)).take area.height).map
    fun (item, i) => itemLine item (i == p.selected) area.width

/-- Draws the matches. -/
def drawResults (p : Palette) (area : Rect) (b : Buffer) : Buffer :=
  match p.message? with
  | some m =>
    b.drawParagraph (area.row (area.height / 2)) { lines := [.ofText m Theme.muted], align := .center }
  | none => b.drawLines area (p.visible area)

/-- The keys of the palette. -/
def hints : KeyHints := [("↑↓", "navigate"), ("Enter", "select"), ("Esc", "close")]

/-- Draws the window over a dimmed screen. -/
def draw (p : Palette) (area : Rect) (b : Buffer) : Buffer :=
  let rect := Rect.topCentered windowWidth windowHeight 2 area
  let inner := Box.inner rect
  let b := ((b.veil area).clear rect).drawBox rect
    (Theme.window { text := " Go to " } Theme.activeEdge)
  if inner.height < 4 then b
  else
    let b := b.drawLine (inner.row 0) p.queryLine
    let b := p.drawResults { inner with y := inner.y + 2, height := inner.height - 3 } b
    hints.draw (inner.row (inner.height - 1)) b

end FunctionConsole.Palette
