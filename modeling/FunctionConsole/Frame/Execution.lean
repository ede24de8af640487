import FunctionConsole.Canvas.Layout
import FunctionConsole.Piece.Badge
import FunctionConsole.Piece.CodeView
import FunctionConsole.Piece.LogView
import FunctionConsole.Piece.PagingBar
import FunctionConsole.Piece.Placeholder
import FunctionConsole.Screen.Execution

/-!
# One execution, drawn

From top to bottom: the execution, its error report, its event, and its logs. The rows of the report
and of the event are counted in words of 16 bits.
-/

namespace FunctionConsole

-- ==================================================== error report

namespace ErrorReport

/-- The rows that the card of a report takes: the edges, and for each section its lines and a
gap, but for the tip, which comes last. -/
def cardRows (r : ErrorReport) : UInt16 :=
  let description : UInt16 := if r.description.isSome then 2 else 0
  let code : UInt16 :=
    match r.code with
    | some c => UInt16.ofNat (Text.lines c).length + 1
    | none => 0
  let tip : UInt16 := if r.tip.isSome then 1 else 0
  2 + description + code + tip

/-- The lines of a report. -/
def lines (r : ErrorReport) : List Line :=
  let description : List Line :=
    match r.description with
    | some d => [.ofText d Theme.bad, {}]
    | none => []
  let code : List Line :=
    match r.code with
    | some c => (Text.lines c).map (fun l => .ofText l Theme.primary) ++ [{}]
    | none => []
  let tip : List Line :=
    match r.tip with
    | some t => [.ofText t Theme.care]
    | none => []
  description ++ code ++ tip

/-- Draws the card of a report. -/
def draw (r : ErrorReport) (area : Rect) (b : Buffer) : Buffer :=
  let card : Card := { title := "Error", tone := .danger }
  (card.draw area b).drawParagraph (card.inner area) { lines := r.lines, wrap := some false }

end ErrorReport

-- ==================================================== event

/-- The most rows of the card of an event. -/
def maxEventRows : UInt16 := 10

/-- The rows that the card of an event takes: its lines and the edges. -/
def eventRows : Option String → UInt16
  | some e => min (UInt16.ofNat (Text.lines e).length + 2) maxEventRows
  | none => 3

/-- Draws the card of an event. -/
def drawEvent (event : Option String) (area : Rect) (b : Buffer) : Buffer :=
  let card : Card := { title := "Input Event" }
  let b := card.draw area b
  match event with
  | some e => (CodeView.ofText e).draw (card.inner area) b
  | none => drawHint "No input event" (card.inner area) b

namespace ExecutionScreen

-- ==================================================== header

/-- The function's name, or its id while it is not known, and the execution. -/
def titleLine (s : ExecutionScreen) (e : Execution) : Line :=
  { spans :=
      [{ text := " " },
       { text := match s.function with
          | some f => f.name
          | none => e.functionId
         style := Theme.strong },
       { text := "  exec: " ++ e.shortId, style := Theme.muted }] }

/-- How the execution ended, how long it took, and when it was. -/
def statusLine (zone : TimeZone) (e : Execution) : Line :=
  { spans :=
      [{ text := " " }, (Badge.ofStatus e.status).span, { text := " " },
       (Badge.mk e.durationLabel .outline).span,
       { text := "  " ++ formatTimestamp e.createdAt .dateTime zone, style := Theme.secondary }] }

-- ==================================================== logs

/-- Draws a page of logs, with the bar below it if there are more pages. -/
def drawLogList (s : ExecutionScreen) (zone : TimeZone) (list : LogList) (area : Rect)
    (b : Buffer) : Buffer :=
  let view : LogView := ⟨zone, list.rows, s.scroll⟩
  if s.showLogPagination then
    let (logs, bar) := barAreas area
    (PageModel.ofPagination list.pagination).drawBar bar (view.draw logs b)
  else view.draw area b

/-- Draws the card of the logs. -/
def drawLogs (s : ExecutionScreen) (zone : TimeZone) (area : Rect) (b : Buffer) : Buffer :=
  let card : Card := { title := "Logs" }
  s.logs.draw "logs" (drawHint "Logs not found") (s.drawLogList zone) (card.inner area)
    (card.draw area b)

-- ==================================================== the screen

/-- The areas of the header, the report, the event and the logs. -/
def areas (report : Option ErrorReport) (event : Option String) (area : Rect) : List Rect :=
  Layout.rows area
    [.length 2, .length ((report.map fun r => r.cardRows.toNat).getD 0),
     .length (eventRows event).toNat, .min 3]

/-- Draws an execution. -/
def drawExecution (s : ExecutionScreen) (zone : TimeZone) (e : Execution) (area : Rect)
    (b : Buffer) : Buffer :=
  let report := s.errorReport
  let event := e.prettyEvent
  let part := Layout.part (areas report event area)
  let b := b.drawParagraph (part 0) { lines := [s.titleLine e, statusLine zone e] }
  let b :=
    match report with
    | some r => r.draw (part 1) b
    | none => b
  s.drawLogs zone (part 3) (drawEvent event (part 2) b)

/-- Draws the screen. -/
def draw (s : ExecutionScreen) (zone : TimeZone) : Rect → Buffer → Buffer :=
  s.execution.draw "execution"
    (Card.drawMessage { title := "Execution", tone := .danger } "Execution not found")
    (s.drawExecution zone)

end ExecutionScreen

end FunctionConsole
