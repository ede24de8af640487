import FunctionConsole.Screen.Basic

/-!
# Executions of a function

A table of one page of the invocations.
-/

namespace FunctionConsole

/-- The screen with a function's executions. -/
structure ExecutionsScreen where
  id : String
  function : Loadable Function := .loading
  executions : Loadable ExecutionList := .loading
  selected : Nat := 0
  page : PageState
  deriving DecidableEq, Repr

namespace ExecutionsScreen

/-- The request for the page the screen is on. -/
def pageRequest (s : ExecutionsScreen) : Request :=
  .listExecutions s.id s.page.limit s.page.offset

/-- The screen on entry, and its requests. -/
def enter (id : String) (ctx : ScreenContext) : ExecutionsScreen × List Request :=
  let s : ExecutionsScreen := { id, page := .first ctx.pageSize }
  (s, [.getFunction id, s.pageRequest])

/-- Turns to another page, which has to be loaded. -/
def turnTo (s : ExecutionsScreen) (page : PageState) : ExecutionsScreen :=
  { s with executions := .loading, selected := 0, page }

/-- What a key does. -/
def handleKey (s : ExecutionsScreen) (key : Key) : Option (ExecutionsScreen × Effects) :=
  match Screen.moveSelection s.selected s.executions.rows.length key with
  | some selected => some ({ s with selected }, .none)
  | none =>
    match s.page.handleKey key s.executions.total with
    | some (_, false) => some (s, .none)
    | some (page, true) => some (s.turnTo page, .request (s.turnTo page).pageRequest)
    | none =>
      match key with
      | .enter =>
        match s.executions.rows[s.selected]? with
        | some e => some (s, .goTo (.execution e.id))
        | none => some (s, .none)
      | _ => none

/-- What a response does. -/
def handleResponse (s : ExecutionsScreen) : Response → ExecutionsScreen × Effects
  | .function (.ok f) => ({ s with function := .loaded f }, .none)
  | .function (.error e) => ({ s with function := .notFound }, .failure e.message)
  | .executions page result =>
    if page ≠ s.page then (s, .none)
    else match result with
      | .ok list =>
        ({ s with
          selected := Screen.clampIndex s.selected list.rows.length
          executions := .loaded list }, .none)
      | .error e => ({ s with executions := .notFound }, .failure e.message)
  | _ => (s, .none)

end ExecutionsScreen

end FunctionConsole
