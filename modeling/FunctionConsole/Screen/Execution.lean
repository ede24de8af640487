import FunctionConsole.ErrorReport
import FunctionConsole.Screen.Basic

/-!
# One execution

The execution, its error report, its event, and one page of its logs.
-/

namespace FunctionConsole

/-- The screen with one execution. -/
structure ExecutionScreen where
  id : String
  execution : Loadable Execution := .loading
  /-- The function it belongs to. It is shown in the header only, so it may be missing. -/
  function : Option Function := none
  logs : Loadable LogList := .loading
  page : PageState
  /-- The first log line that is asked to be shown. -/
  scroll : Nat := 0
  deriving DecidableEq, Repr

namespace ExecutionScreen

/-- The request for the page of logs the screen is on. -/
def pageRequest (s : ExecutionScreen) : Request := .executionLogs s.id s.page.limit s.page.offset

/-- The screen on entry, and its requests. -/
def enter (id : String) (ctx : ScreenContext) : ExecutionScreen × List Request :=
  let s : ExecutionScreen := { id, page := .first ctx.pageSize }
  (s, [.getExecution id, s.pageRequest])

/-- Whether the logs fill more than one page. -/
def showLogPagination (s : ExecutionScreen) : Bool := s.logs.total > s.page.limit

/-- The report of an execution that failed, unless it is empty. -/
def errorReport (s : ExecutionScreen) : Option ErrorReport :=
  s.execution.get?.bind fun e =>
    if e.status = .error then
      (e.errorMessage.map ErrorReport.parse).filter fun r => !r.isEmpty
    else none

/-- Turns to another page of logs, which has to be loaded. -/
def turnTo (s : ExecutionScreen) (page : PageState) : ExecutionScreen :=
  { s with logs := .loading, scroll := 0, page }

/-- What a key does. -/
def handleKey (s : ExecutionScreen) (key : Key) : Option (ExecutionScreen × Effects) :=
  match s.page.handleKey key s.logs.total with
  | some (_, false) => some (s, .none)
  | some (page, true) => some (s.turnTo page, .request (s.turnTo page).pageRequest)
  | none =>
    (Screen.moveScroll s.scroll s.logs.rows.length key).map fun scroll => ({ s with scroll }, .none)

/-- What a response does. -/
def handleResponse (s : ExecutionScreen) : Response → ExecutionScreen × Effects
  | .execution (.ok e) => ({ s with execution := .loaded e }, .request (.getFunction e.functionId))
  | .execution (.error e) => ({ s with execution := .notFound }, .failure e.message)
  | .function (.ok f) => ({ s with function := some f }, .none)
  | .logs page result =>
    if page ≠ s.page then (s, .none)
    else match result with
      | .ok list => ({ s with logs := .loaded list }, .none)
      | .error e => ({ s with logs := .notFound }, .failure e.message)
  | _ => (s, .none)

end ExecutionScreen

end FunctionConsole
