import FunctionConsole.Theme

/-!
# Key hints

What keys do, each key's name on a chip.
-/

namespace FunctionConsole

/-- The name of a key on a chip. -/
def keyChip (key : String) : Span := { text := " " ++ key ++ " ", style := Theme.keyChip }

/-- Keys with what they do. -/
abbrev KeyHints := List (String × String)

namespace KeyHints

/-- One hint. -/
def hint (e : String × String) : List Span :=
  [keyChip e.1, { text := " " ++ e.2, style := Theme.muted }]

/-- Hints side by side. -/
def line (h : KeyHints) : Line := { spans := List.intercalate [{ text := "  " }] (h.map hint) }

/-- Draws hints. -/
def draw (h : KeyHints) (area : Rect) (b : Buffer) : Buffer := b.drawLine area h.line

end KeyHints

end FunctionConsole
