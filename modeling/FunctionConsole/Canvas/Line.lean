import FunctionConsole.Canvas.Buffer
import FunctionConsole.Text.Cluster
import FunctionConsole.Text.Width

/-!
# Lines of styled text

A span is text in one style, and a line is spans one after another. Drawing goes cluster by cluster
and stops at the first one that does not fit. A cluster without width joins the cell before it, and
clusters with a control character are left out, although they count in a span's width.
-/

namespace FunctionConsole

/-- Text in one style. -/
structure Span where
  text : String
  style : Style := {}
  deriving DecidableEq, Repr, Inhabited

/-- Spans one after another, with a style below theirs. -/
structure Line where
  spans : List Span := []
  style : Style := {}
  deriving DecidableEq, Repr, Inhabited

/-- A cluster of characters with its style. -/
structure Glyph where
  text : List Char
  style : Style
  deriving DecidableEq, Repr, Inhabited

/-- The cells that a glyph takes. -/
def Glyph.width (g : Glyph) : Nat := Text.width g.text

namespace Span

/-- The cells that a span takes. -/
def width (s : Span) : Nat := Text.width s.text.toList

/-- The glyphs of a span, over a style below its own. -/
def glyphs (s : Span) (below : Style) : List Glyph :=
  ((Text.clusters s.text.toList).filter fun g => !g.any Text.isControl).map fun g =>
    { text := g, style := below.andThen s.style }

/-- Spaces in no style. -/
def gap (n : Nat) : Span := { text := String.ofList (List.replicate n ' ') }

end Span

/-- The cells that spans take. -/
def spansWidth : List Span → Nat
  | [] => 0
  | s :: ss => s.width + spansWidth ss

namespace Line

/-- A line of one span. -/
def ofSpan (s : Span) : Line := { spans := [s] }

/-- A line of text in one style. -/
def ofText (text : String) (style : Style) : Line := ofSpan { text, style }

/-- The cells that a line takes. -/
def width (l : Line) : Nat := spansWidth l.spans

/-- The glyphs of a line. -/
def glyphs (l : Line) : List Glyph := l.spans.flatMap fun s => s.glyphs l.style

end Line

namespace Buffer

/-- Empties the cells that a wide glyph hides. -/
def hide (b : Buffer) (x y : Nat) (count : Nat) : Buffer := modifyRow (fun _ => {}) y count x b

/-- Draws glyphs from a column on, within the columns from `left` up to `right`. -/
def drawGlyphs (left right y : Nat) : (x : Nat) → (first : Bool) → List Glyph → Buffer → Buffer
  | _, _, [], b => b
  | x, first, g :: gs, b =>
    let w := g.width
    if right < x + w then b
    else
      let b :=
        if first then b.modify x y fun c => c.put g.text g.style
        else if x = left then b.modify x y fun c => c.append g.text g.style
        else if w = 0 then b.modify (x - 1) y fun c => c.append g.text g.style
        else b.modify x y fun c => c.put g.text g.style
      drawGlyphs left right y (x + w) false gs (b.hide (x + 1) y (w - 1))

/-- Draws a span in the first row of an area. -/
def drawSpan (b : Buffer) (area : Rect) (s : Span) : Buffer :=
  let area := area.inter b.area
  if area.isEmpty then b
  else drawGlyphs area.x area.right area.y area.x true (s.glyphs {}) b

/-- Draws spans one after another; a span without width is left out. -/
def drawSpans : (area : Rect) → List Span → Buffer → Buffer
  | _, [], b => b
  | area, s :: ss, b =>
    if s.width = 0 then drawSpans area ss b
    else if area.isEmpty then b
    else drawSpans (area.dropColumns s.width) ss (b.drawSpan area s)

/-- Draws a line in the first row of an area; the line's style covers the whole row. -/
def drawLine (b : Buffer) (area : Rect) (l : Line) : Buffer :=
  let area := area.inter b.area
  if area.isEmpty ∨ l.width = 0 then b
  else
    let area := { area with height := 1 }
    drawSpans area l.spans (b.paint area l.style)

/-- Draws lines one below the other. -/
def drawLines (b : Buffer) (area : Rect) (ls : List Line) : Buffer :=
  let area := area.inter b.area
  ((ls.take area.height).zipIdx).foldl (fun b (l, i) => b.drawLine (area.row i) l) b

/-- Writes glyphs that have a width from a column on, at most so many cells of them; answers the
column after them. -/
def writeGlyphs (y : Nat) : (x room : Nat) → List Glyph → Buffer → Buffer × Nat
  | x, _, [], b => (b, x)
  | x, room, g :: gs, b =>
    let w := g.width
    if w = 0 then writeGlyphs y x room gs b
    else if room < w then (b, x)
    else
      writeGlyphs y (x + w) (room - w) gs
        ((b.modify x y fun c => c.put g.text g.style).hide (x + 1) y (w - 1))

/-- Writes a line from a column on, at most so many cells of it; answers the column after it. -/
def writeLine (b : Buffer) (x y room : Nat) (l : Line) : Buffer × Nat :=
  let (b, x, _) := l.spans.foldl (fun ((b, x, room) : Buffer × Nat × Nat) s =>
    let (b, x') := writeGlyphs y x (min room (b.width - x)) (s.glyphs l.style) b
    (b, x', room - (x' - x))) (b, x, room)
  (b, x)

end Buffer

end FunctionConsole
