import FunctionConsole.Text.Blank
import FunctionConsole.Theme

/-!
# Code

Lines of code with their numbers. With a cursor the lines are scrolled so that the row of the cursor
is seen; without one as far as is asked for, but not past the last line.
-/

namespace FunctionConsole

/-- Lines of code. -/
structure CodeView where
  lines : List (List Char)
  /-- The row and the column of the cursor. -/
  cursor : Option (Nat × Nat) := none
  scroll : Nat := 0
  deriving DecidableEq, Repr, Inhabited

/-- A text with a cursor on one of its characters, or behind the last. -/
def cursorSpans (cs : List Char) (col : Nat) : List Span :=
  let text (l : List Char) (style : Style) : Span := { text := String.ofList l, style }
  match cs.drop col with
  | [] => [text cs Theme.primary, text [' '] .reversed, text [] Theme.primary]
  | c :: rest => [text (cs.take col) Theme.primary, text [c] .reversed, text rest Theme.primary]

namespace CodeView

/-- The lines of a text. -/
def ofText (s : String) : CodeView := { lines := Text.splitOnChar (· == '\n') s.toList }

/-- The columns of the largest line number. -/
def numberWidth (v : CodeView) : Nat := (toString (max v.lines.length 1)).length

/-- The number of the line at a position, flush right. -/
def number (v : CodeView) (i : Nat) : String :=
  let digits := toString (i + 1)
  String.ofList (List.replicate (v.numberWidth - digits.length) ' ') ++ digits

/-- The first line that is drawn in so many rows. -/
def offset (v : CodeView) (height : Nat) : Nat :=
  match v.cursor, height with
  | some (row, _), h + 1 => max (row - h) (min v.scroll row)
  | _, _ => min v.scroll (v.lines.length - height)

/-- The line at a position. -/
def line (v : CodeView) (i : Nat) (cs : List Char) : Line :=
  let code : List Span :=
    match v.cursor with
    | some (row, col) =>
      if row = i then cursorSpans cs col else [{ text := String.ofList cs, style := Theme.primary }]
    | none => [{ text := String.ofList cs, style := Theme.primary }]
  { spans := { text := v.number i ++ " │ ", style := Theme.muted } :: code }

/-- The lines that are drawn in so many rows. -/
def visible (v : CodeView) (height : Nat) : List Line :=
  (((v.lines.zipIdx).drop (v.offset height)).take height).map fun (cs, i) => v.line i cs

/-- Draws code. -/
def draw (v : CodeView) (area : Rect) (b : Buffer) : Buffer := b.drawLines area (v.visible area.height)

end CodeView

end FunctionConsole
