import FunctionConsole.Key
import FunctionConsole.Text.Blank

/-!
# Multi-line buffer

The buffer for code, headers and bodies: a list of lines, never empty, and a cursor given by its
row and the number of characters before it in that row. Its text joins the lines with line breaks.
-/

namespace FunctionConsole

/-- A list of lines with a cursor. -/
structure TextArea where
  lines : List (List Char) := [[]]
  row : Nat := 0
  col : Nat := 0
  deriving DecidableEq, Repr, Inhabited

namespace TextArea

/-- How many rows a page key moves. -/
def pageRows : Nat := 10

/-- A buffer with the given text and the cursor at its start. -/
def ofString (s : String) : TextArea := { lines := Text.splitOnChar (· == '\n') s.toList }

/-- Lines joined with line breaks. -/
def joinLines : List (List Char) → List Char
  | [] => []
  | [l] => l
  | l :: m :: rest => l ++ '\n' :: joinLines (m :: rest)

/-- The text of a buffer. -/
def text (a : TextArea) : String := String.ofList (joinLines a.lines)

/-- Whether the text is empty. -/
def isEmpty (a : TextArea) : Bool := a.lines == [[]]

/-- A line, empty past the last one. -/
def line (a : TextArea) (row : Nat) : List Char := (a.lines[row]?).getD []

/-- The length of a line. -/
def lineLength (a : TextArea) (row : Nat) : Nat := (a.line row).length

/-- Brings the cursor back into its row. -/
def clampCol (a : TextArea) : TextArea := { a with col := min a.col (a.lineLength a.row) }

/-- Moves to a row, at the same column if the row is long enough. -/
def toRow (a : TextArea) (row : Nat) : TextArea := { a with row }.clampCol

/-- Inserts a character other than a line break at the cursor. -/
def insertChar (a : TextArea) (c : Char) : TextArea :=
  { a with
    lines := a.lines.modify a.row fun l => l.take a.col ++ c :: l.drop a.col
    col := a.col + 1 }

/-- Breaks the line at the cursor and moves to the start of the new one. -/
def insertNewline (a : TextArea) : TextArea :=
  let l := a.line a.row
  { lines := a.lines.take a.row ++ l.take a.col :: l.drop a.col :: a.lines.drop (a.row + 1)
    row := a.row + 1
    col := 0 }

/-- Inserts a character of a text, which may be a line break. -/
def insertAny (a : TextArea) (c : Char) : TextArea :=
  if c = '\n' then a.insertNewline else a.insertChar c

/-- Inserts a text at the cursor. -/
def insertString (a : TextArea) (s : String) : TextArea := s.toList.foldl insertAny a

/-- Removes a character of the cursor's line. -/
def eraseChar (a : TextArea) (col : Nat) : TextArea :=
  { a with lines := a.lines.modify a.row fun l => l.eraseIdx col }

/-- Joins a line with the one after it. -/
def joinAt (a : TextArea) (row : Nat) : List (List Char) :=
  a.lines.take row ++ (a.line row ++ a.line (row + 1)) :: a.lines.drop (row + 2)

/-- Removes the character or line break before the cursor; says whether there was one. -/
def backspace (a : TextArea) : TextArea × Bool :=
  match a.col, a.row with
  | col + 1, _ => ({ a.eraseChar col with col }, true)
  | 0, 0 => (a, false)
  | 0, row + 1 => ({ lines := a.joinAt row, row, col := a.lineLength row }, true)

/-- Removes the character or line break after the cursor; says whether there was one. -/
def delete (a : TextArea) : TextArea × Bool :=
  if a.col < a.lineLength a.row then (a.eraseChar a.col, true)
  else if a.row + 1 < a.lines.length then ({ a with lines := a.joinAt a.row }, true)
  else (a, false)

/-- One character back; from the start of a row to the end of the one above. -/
def left (a : TextArea) : TextArea :=
  match a.col, a.row with
  | col + 1, _ => { a with col }
  | 0, row + 1 => { a with row, col := a.lineLength row }
  | 0, 0 => a

/-- One character on; from the end of a row to the start of the one below. -/
def right (a : TextArea) : TextArea :=
  if a.col < a.lineLength a.row then { a with col := a.col + 1 }
  else if a.row + 1 < a.lines.length then { a with row := a.row + 1, col := 0 }
  else a

/-- What a key does to a buffer. -/
def handleKey (a : TextArea) : Key → TextArea × KeyEffect
  | .char c => (a.insertChar c, .edited)
  | .enter => (a.insertNewline, .edited)
  | .backspace => (a.backspace.1, .ofRemoval a.backspace.2)
  | .delete => (a.delete.1, .ofRemoval a.delete.2)
  | .left => (a.left, .moved)
  | .right => (a.right, .moved)
  | .up => (a.toRow (a.row - 1), .moved)
  | .down => (a.toRow (min (a.row + 1) (a.lines.length - 1)), .moved)
  | .pageUp => (a.toRow (a.row - pageRows), .moved)
  | .pageDown => (a.toRow (min (a.row + pageRows) (a.lines.length - 1)), .moved)
  | .home => ({ a with col := 0 }, .moved)
  | .toEnd => ({ a with col := a.lineLength a.row }, .moved)
  | _ => (a, .ignored)

end TextArea

end FunctionConsole
