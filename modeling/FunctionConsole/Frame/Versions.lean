import FunctionConsole.Piece.FunctionFrame
import FunctionConsole.Piece.PagingBar
import FunctionConsole.Screen.Versions
import FunctionConsole.Timestamp

/-!
# The versions of a function, drawn
-/

namespace FunctionConsole.VersionsScreen

/-- The row of a version. -/
def row (s : VersionsScreen) (zone : TimeZone) (v : Version) : List Line :=
  let active := s.isActive v.version
  let label : Span := { text := "v" ++ toString v.version.toNat, style := Theme.strong }
  [.ofText (if s.isChecked v.version then "[x]" else "[ ]") Theme.accent,
   { spans := label :: if active then [{ text := " " }, (Badge.mk "ACTIVE" .good).span] else [] },
   .ofText (formatTimestamp v.createdAt .dateTime zone) Theme.secondary,
   if active then {} else .ofText "a: Activate" Theme.muted]

/-- The table of a page of versions. -/
def table (s : VersionsScreen) (zone : TimeZone) (vs : List Version) : Table :=
  { header := ["", "Version", "Created", ""]
    widths := [.length 3, .length 16, .length 20, .fill 1]
    rows := vs.map (s.row zone)
    selected := some s.selected }

/-- Draws a page of versions. -/
def drawList (s : VersionsScreen) (zone : TimeZone) (list : VersionList) (area : Rect)
    (b : Buffer) : Buffer :=
  let card : Card :=
    { title := "Version History"
      subtitle := some ("Select two versions to compare (" ++ toString s.checked.length ++
        "/2 selected)") }
  (s.table zone list.rows).drawPage list.pagination (card.inner area) (card.draw area b)

/-- Draws the screen. -/
def draw (s : VersionsScreen) (zone : TimeZone) : Rect → Buffer → Buffer :=
  drawFunctionFrame s.function (some .versions) <|
    s.versions.draw "versions" (Card.drawMessage { title := "Versions" } "Versions not found")
      (s.drawList zone)

end FunctionConsole.VersionsScreen
