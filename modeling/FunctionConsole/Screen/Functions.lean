import FunctionConsole.Screen.Basic

/-!
# List of functions

A table of one page of the functions. A response is taken only if it is for the page the screen is
on, because several pages can be on their way at once.
-/

namespace FunctionConsole

/-- The screen that lists the functions. -/
structure FunctionsScreen where
  functions : Loadable FunctionList := .loading
  selected : Nat := 0
  page : PageState
  deriving DecidableEq, Repr

namespace FunctionsScreen

/-- The request for the page the screen is on. -/
def pageRequest (s : FunctionsScreen) : Request := .listFunctions s.page.limit s.page.offset

/-- The screen on entry, and its requests. -/
def enter (ctx : ScreenContext) : FunctionsScreen × List Request :=
  let s : FunctionsScreen := { page := .first ctx.pageSize }
  (s, [s.pageRequest])

/-- The highlighted function. -/
def selectedFunction (s : FunctionsScreen) : Option Function := s.functions.rows[s.selected]?

/-- Turns to another page, which has to be loaded. -/
def turnTo (s : FunctionsScreen) (page : PageState) : FunctionsScreen :=
  { s with functions := .loading, selected := 0, page }

/-- What a key does. -/
def handleKey (s : FunctionsScreen) (key : Key) : Option (FunctionsScreen × Effects) :=
  match Screen.moveSelection s.selected s.functions.rows.length key with
  | some selected => some ({ s with selected }, .none)
  | none =>
    match s.page.handleKey key s.functions.total with
    | some (_, false) => some (s, .none)
    | some (page, true) => some (s.turnTo page, .request (s.turnTo page).pageRequest)
    | none =>
      match key with
      | .enter =>
        match s.selectedFunction with
        | some f => some (s, .goTo (.code f.id))
        | none => some (s, .none)
      | .char 'n' => some (s, .goTo .create)
      | _ => none

/-- What a response does. -/
def handleResponse (s : FunctionsScreen) : Response → FunctionsScreen × Effects
  | .functions page result =>
    if page ≠ s.page then (s, .none)
    else match result with
      | .ok list =>
        ({ s with
          selected := Screen.clampIndex s.selected list.rows.length
          functions := .loaded list }, .none)
      | .error e => ({ s with functions := .notFound }, .failure e.message)
  | _ => (s, .none)

end FunctionsScreen

end FunctionConsole
