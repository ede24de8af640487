import FunctionConsole.Canvas.Line

/-!
# Paragraphs

Lines of text in an area, cut at its edge or wrapped between words. Wrapping puts as many words on
a row as fit and breaks a word only if it is wider than the area; blanks at a break are dropped as
far as they would still fit on the row. When blanks are trimmed, a row does not start with them.
-/

namespace FunctionConsole

/-- Where the rows of a paragraph stand. -/
inductive Alignment where
  | left
  | center
  | right
  deriving DecidableEq, Repr, Inhabited

/-- Whether a glyph separates words: blanks do, but for the one that must not break; and so does the
space without width. -/
def Glyph.isBlank (g : Glyph) : Bool :=
  g.text == ['\u200B'] || (g.text.all Text.isBlank && g.text ≠ ['\u00A0'])

/-- The cells that glyphs take. -/
def glyphsWidth : List Glyph → Nat
  | [] => 0
  | g :: gs => g.width + glyphsWidth gs

namespace Wrap

/-- The rows that are done, the row being filled, and the blanks and the word that may follow on
it. -/
structure State where
  rows : List (List Glyph) := []
  row : List Glyph := []
  rowWidth : Nat := 0
  blanks : List Glyph := []
  blanksWidth : Nat := 0
  word : List Glyph := []
  wordWidth : Nat := 0
  /-- The last glyph belongs to a word. -/
  inWord : Bool := false
  deriving Repr, Inhabited

/-- Moves the blanks and the word onto the row; trimmed blanks do not start a row. -/
def State.commit (trim : Bool) (s : State) : State :=
  let keep := !s.row.isEmpty || !trim
  { s with
    row := s.row ++ (if keep then s.blanks else []) ++ s.word
    rowWidth := s.rowWidth + (if keep then s.blanksWidth else 0) + s.wordWidth
    blanks := [], blanksWidth := 0, word := [], wordWidth := 0 }

/-- Drops the blanks at the front that fit into the rest of a row. -/
def dropFitting : (room : Nat) → List Glyph → List Glyph
  | _, [] => []
  | room, g :: gs => if room < g.width then g :: gs else dropFitting (room - g.width) gs

/-- Ends the row. -/
def State.endRow (max : Nat) (s : State) : State :=
  let blanks := dropFitting (max - s.rowWidth) s.blanks
  { s with
    rows := s.rows ++ [s.row], row := [], rowWidth := 0
    blanks, blanksWidth := glyphsWidth blanks }

/-- Takes the next glyph; one that is wider than a row is left out. -/
def State.push (max : Nat) (trim : Bool) (s : State) (g : Glyph) : State :=
  let w := g.width
  if max < w then s
  else
    let blank := g.isBlank
    let fresh := s.row.isEmpty
    let overflow :=
      if trim then max < s.wordWidth + w || max < s.blanksWidth + w
      else max < s.wordWidth + s.blanksWidth + w
    let s := if (s.inWord && blank) || (fresh && overflow) then s.commit trim else s
    let full :=
      max ≤ s.rowWidth || (0 < w && max ≤ s.rowWidth + s.blanksWidth + s.wordWidth)
    let s' := if full then s.endRow max else s
    if full && blank && s'.blanks.isEmpty then s'
    else if blank then
      { s' with blanks := s'.blanks ++ [g], blanksWidth := s'.blanksWidth + w, inWord := false }
    else { s' with word := s'.word ++ [g], wordWidth := s'.wordWidth + w, inWord := true }

/-- The rows of a line once all its glyphs are taken; there is at least one. -/
def State.finish (trim : Bool) (s : State) : List (List Glyph) :=
  let rows := if s.row.isEmpty && s.word.isEmpty && !s.blanks.isEmpty then s.rows ++ [[]] else s.rows
  let last := s.row ++ (if !s.row.isEmpty || !trim then s.blanks else []) ++ s.word
  let rows := if last.isEmpty then rows else rows ++ [last]
  if rows.isEmpty then [[]] else rows

/-- The rows of a line in an area of so many columns. -/
def rows (max : Nat) (trim : Bool) (l : Line) : List (List Glyph) :=
  (l.glyphs.foldl (State.push max trim) {}).finish trim

end Wrap

/-- The glyphs of a line that fit into so many columns; one that is wider than all is left out. -/
def cutGlyphs (max : Nat) : (taken : Nat) → List Glyph → List Glyph
  | _, [] => []
  | taken, g :: gs =>
    if max < g.width then cutGlyphs max taken gs
    else if max < taken + g.width then []
    else g :: cutGlyphs max (taken + g.width) gs

/-- Lines of text in an area. With `wrap`, lines are wrapped, and it says whether blanks are
trimmed. -/
structure Paragraph where
  lines : List Line
  wrap : Option Bool := none
  align : Alignment := .left
  style : Style := {}
  deriving Repr, Inhabited

namespace Paragraph

/-- A paragraph of one span. -/
def ofSpan (s : Span) : Paragraph := { lines := [.ofSpan s] }

/-- The rows of a paragraph in an area of so many columns. -/
def rows (p : Paragraph) (max : Nat) : List (List Glyph) :=
  let styled (l : Line) : Line := { l with style := p.style.andThen l.style }
  match p.wrap with
  | some trim => p.lines.flatMap fun l => Wrap.rows max trim (styled l)
  | none => p.lines.map fun l => cutGlyphs max 0 (styled l).glyphs

/-- How far a row is from the left edge. -/
def offset (p : Paragraph) (max width : Nat) : Nat :=
  match p.align with
  | .left => 0
  | .center => max / 2 - width / 2
  | .right => max - width

end Paragraph

namespace Buffer

/-- Puts glyphs that have a width into cells from a column on. -/
def putGlyphs (y : Nat) : (x : Nat) → List Glyph → Buffer → Buffer
  | _, [], b => b
  | x, g :: gs, b =>
    let w := g.width
    if w = 0 then putGlyphs y x gs b
    else putGlyphs y (x + w) gs (b.modify x y fun c => c.put g.text g.style)

/-- Draws a paragraph; its style covers the whole area. -/
def drawParagraph (b : Buffer) (area : Rect) (p : Paragraph) : Buffer :=
  let area := area.inter b.area
  if area.isEmpty then b
  else
    (((p.rows area.width).take area.height).zipIdx).foldl (fun b (row, i) =>
      putGlyphs (area.y + i) (area.x + p.offset area.width (glyphsWidth row)) row b)
      (b.paint area p.style)

end Buffer

end FunctionConsole
