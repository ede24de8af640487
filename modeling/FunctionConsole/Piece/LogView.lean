import FunctionConsole.Canvas.Paragraph
import FunctionConsole.Resource.Execution
import FunctionConsole.Text.Fit
import FunctionConsole.Theme
import FunctionConsole.Timestamp

/-!
# Logs

Log lines with their time, in the time zone of who reads them, and their level, wrapped where they
are too wide.
-/

namespace FunctionConsole

/-- Log lines, scrolled by so many of them. -/
structure LogView where
  zone : TimeZone
  logs : List ExecutionLog
  scroll : Nat := 0

namespace LogView

/-- The style of a level. -/
def style : LogLevel → Style
  | .debug => (Style.ofFg .darkGray).bold
  | .info => (Style.ofFg .blue).bold
  | .warn => (Style.ofFg .yellow).bold
  | .error => (Style.ofFg .red).bold

/-- The columns of a level. -/
def levelWidth : Nat := 5

/-- The line of a log line. -/
def line (zone : TimeZone) (l : ExecutionLog) : Line :=
  { spans :=
      [{ text := formatTimestamp l.createdAt .time zone, style := Theme.muted }, { text := " " },
       { text := String.ofList (Text.padRight l.level.label.toList levelWidth)
         style := style l.level },
       { text := " " }, { text := l.message, style := Theme.primary }] }

/-- The first log line that is drawn in so many rows. -/
def offset (v : LogView) (height : Nat) : Nat := min v.scroll (v.logs.length - height)

/-- What is drawn in so many rows. -/
def paragraph (v : LogView) (height : Nat) : Paragraph :=
  if v.logs.isEmpty then { lines := [.ofText "No logs available" Theme.muted] }
  else { lines := (v.logs.drop (v.offset height)).map (line v.zone), wrap := some false }

/-- Draws logs. -/
def draw (v : LogView) (area : Rect) (b : Buffer) : Buffer :=
  b.drawParagraph area (v.paragraph area.height)

end LogView

end FunctionConsole
