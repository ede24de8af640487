import FunctionConsole.Piece.Button
import FunctionConsole.Piece.Field
import FunctionConsole.Piece.FunctionFrame
import FunctionConsole.Piece.LogView
import FunctionConsole.Screen.Test

/-!
# The test of a function, drawn

The request on the left, and on the right the answer with its logs, and below it the same request as
code.
-/

namespace FunctionConsole.TestScreen

-- ==================================================== request

/-- The methods to choose from. -/
def methodLine (s : TestScreen) : Line :=
  let focused := s.focus == .method
  let style (m : HttpMethod) : Style :=
    if m = s.method then (if focused then Theme.activeTab else Theme.strong) else Theme.muted
  { spans :=
      { text := "Method ", style := if focused then Theme.strongAccent else Theme.secondary } ::
        HttpMethod.all.map fun m => { text := " " ++ m.name ++ " ", style := style m } }

/-- The address that is called. -/
def urlLine (s : TestScreen) : Line :=
  { spans := [{ text := " URL ", style := Theme.muted }, { text := s.url, style := Theme.accent }] }

/-- The field for the query. -/
def queryField (s : TestScreen) : InputField :=
  { label := "Query", input := s.query, focused := s.focus == .query
    placeholder := some "key=value&other=1" }

/-- The field for the headers. -/
def headersField (s : TestScreen) : TextField :=
  { label := "Headers (JSON)", area := s.headers, focused := s.focus == .headers
    help := s.headersError.map fun e => .fault e.message }

/-- The field for the body. -/
def bodyField (s : TestScreen) : TextField :=
  { label := if s.method.hasBody then "Body" else "Body (not sent for this method)"
    area := s.body, focused := s.focus == .body }

/-- The button that makes the call. -/
def button (s : TestScreen) : Button :=
  { label := if s.sending then "Sending..." else "Send Request"
    focused := s.focus == .send, disabled := s.sending }

/-- Draws the request. -/
def drawRequest (s : TestScreen) (area : Rect) (b : Buffer) : Buffer :=
  let card : Card := { title := "Request" }
  let part := Layout.part <| Layout.rows (card.inner area)
    [.length 1, .length 3, .length 1, .length 6, .min 3, .length 1]
  let b := (card.draw area b).drawLine (part 0) s.methodLine
  let b := (s.queryField.draw (part 1) b).drawLine (part 2) s.urlLine
  s.button.draw (part 5) (s.bodyField.draw (part 4) (s.headersField.draw (part 3) b))

-- ==================================================== answer

/-- The status of an answer and how long it took. -/
def statusLine (r : InvokeResponse) : Line :=
  { spans :=
      [(Badge.ofCode r.status).span, { text := " " },
       (Badge.mk (toString r.durationMs.toNat ++ "ms") .outline).span] }

/-- Draws the logs of a call. -/
def drawLogs (zone : TimeZone) (logs : Loadable LogList) : Rect → Buffer → Buffer :=
  logs.draw "logs" (drawHint "Logs not found") fun list area b =>
    let card : Card := { title := "Logs" }
    (LogView.mk zone list.rows 0).draw (card.inner area) (card.draw area b)

/-- Draws an answer and the logs of the call. -/
def drawAnswer (s : TestScreen) (zone : TimeZone) (r : InvokeResponse) (area : Rect) (b : Buffer) :
    Buffer :=
  let part := Layout.part (Layout.rows area [.length 1, .fill 2, .fill 1])
  let b := (CodeView.ofText r.prettyBody).draw (part 1) (b.drawLine (part 0) (statusLine r))
  match s.logs with
  | some logs => drawLogs zone logs (part 2) b
  | none => b

/-- Draws what came of the call. -/
def drawResponse (s : TestScreen) (zone : TimeZone) (area : Rect) (b : Buffer) : Buffer :=
  let card : Card := { title := "Response" }
  let b := card.draw area b
  let inner := card.inner area
  if s.sending then drawLoading "response" inner b
  else
    match s.response with
    | some r => s.drawAnswer zone r inner b
    | none => drawHint "Send a request to see the response" inner b

-- ==================================================== the screen

/-- Draws the request as code. -/
def drawExample (s : TestScreen) (area : Rect) (b : Buffer) : Buffer :=
  let card : Card :=
    { title := "Code Example · " ++ s.language.label, subtitle := some "Ctrl+E to switch language" }
  (CodeView.ofText s.codeExample).draw (card.inner area) (card.draw area b)

/-- Draws the request, the answer and the code. -/
def drawContent (s : TestScreen) (zone : TimeZone) (area : Rect) (b : Buffer) : Buffer :=
  let side := Layout.part (Layout.columns area [.percentage 50, .percentage 50] 1)
  let part := Layout.part (Layout.rows (side 1) [.fill 1, .length 12])
  s.drawExample (part 1) (s.drawResponse zone (part 0) (s.drawRequest (side 0) b))

/-- Draws the screen. -/
def draw (s : TestScreen) (zone : TimeZone) : Rect → Buffer → Buffer :=
  drawFunctionFrame s.function (some .test) (s.drawContent zone)

end FunctionConsole.TestScreen
