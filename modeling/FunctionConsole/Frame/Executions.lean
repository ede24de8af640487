import FunctionConsole.Piece.FunctionFrame
import FunctionConsole.Piece.PagingBar
import FunctionConsole.Screen.Executions
import FunctionConsole.Timestamp

/-!
# The executions of a function, drawn
-/

namespace FunctionConsole.ExecutionsScreen

/-- The card of the executions. -/
def card : Card := { title := "Executions" }

/-- The row of an execution. -/
def row (zone : TimeZone) (e : Execution) : List Line :=
  [.ofText e.shortId Theme.primary, .ofSpan (Badge.ofStatus e.status).span,
   .ofText e.durationLabel Theme.secondary,
   .ofText (formatTimestamp e.createdAt .dateTime zone) Theme.secondary]

/-- The table of a page of executions. -/
def table (zone : TimeZone) (es : List Execution) (selected : Nat) : Table :=
  { header := ["Execution", "Status", "Duration", "Time"]
    widths := [.length 10, .length 10, .length 10, .fill 1]
    rows := es.map (row zone)
    selected := some selected }

/-- Draws a page of executions. -/
def drawList (zone : TimeZone) (list : ExecutionList) (selected : Nat) (area : Rect)
    (b : Buffer) : Buffer :=
  if list.rows.isEmpty then
    card.drawMessage "No executions yet. Test your function to see execution history." area b
  else
    (table zone list.rows selected).drawPage list.pagination (card.inner area) (card.draw area b)

/-- Draws the screen. -/
def draw (s : ExecutionsScreen) (zone : TimeZone) : Rect → Buffer → Buffer :=
  drawFunctionFrame s.function (some .executions) <|
    s.executions.draw "executions" (card.drawMessage "Executions not found")
      (fun list => drawList zone list s.selected)

end FunctionConsole.ExecutionsScreen
