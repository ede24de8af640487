import FunctionConsole.Resource.Diff
import FunctionConsole.Theme

/-!
# Differences

A row for every line of a difference, in the order in which the lines come: the line's number on the
old side and on the new side, its sign, and its content.
-/

namespace FunctionConsole

/-- Lines of a difference, scrolled by so many of them. -/
structure DiffView where
  lines : List DiffLine
  scroll : Nat := 0
  deriving DecidableEq, Repr, Inhabited

namespace DiffView

/-- The columns of a line number. -/
def numberWidth : Nat := 4

/-- A line number, flush right, or blanks. -/
def number (n : Option UInt32) : String :=
  let digits := (n.map fun n => toString n.toNat).getD ""
  String.ofList (List.replicate (numberWidth - digits.length) ' ') ++ digits

/-- The style of a kind of line. -/
def style : LineType → Style
  | .added => Theme.good.withBg Theme.addedGround
  | .removed => Theme.bad.withBg Theme.removedGround
  | .unchanged => Theme.primary

/-- The row of a line. -/
def row (l : DiffLine) : Line :=
  let style := style l.lineType
  { spans :=
      [{ text := number l.oldNumber, style := Theme.muted }, { text := " " },
       { text := number l.newNumber, style := Theme.muted }, { text := " " },
       { text := String.ofList [l.lineType.symbol, ' '], style },
       { text := l.displayContent, style }]
    style := { bg := style.bg } }

/-- The first line that is drawn in so many rows. -/
def offset (v : DiffView) (height : Nat) : Nat := min v.scroll (v.lines.length - height)

/-- The rows that are drawn. -/
def visible (v : DiffView) (height : Nat) : List Line :=
  ((v.lines.drop (v.offset height)).take height).map row

/-- Draws a difference. -/
def draw (v : DiffView) (area : Rect) (b : Buffer) : Buffer := b.drawLines area (v.visible area.height)

end DiffView

/-- The versions of a difference, and how many lines were added and removed. -/
def VersionDiff.legend (d : VersionDiff) : Line :=
  { spans :=
      [{ text := "- Version " ++ toString d.oldVersion.toNat, style := Theme.bad }, { text := "   " },
       { text := "+ Version " ++ toString d.newVersion.toNat, style := Theme.good }, { text := "   " },
       { text := "+" ++ toString d.additions, style := Theme.good }, { text := " " },
       { text := "-" ++ toString d.deletions, style := Theme.bad }] }

end FunctionConsole
