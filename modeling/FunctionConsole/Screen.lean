import FunctionConsole.Screen.Code
import FunctionConsole.Screen.Create
import FunctionConsole.Screen.Diff
import FunctionConsole.Screen.Execution
import FunctionConsole.Screen.Executions
import FunctionConsole.Screen.Functions
import FunctionConsole.Screen.Gallery
import FunctionConsole.Screen.Login
import FunctionConsole.Screen.Settings
import FunctionConsole.Screen.Test
import FunctionConsole.Screen.Versions

/-!
# Screens

The screen that is shown, whichever it is, and the screen that belongs to an address.
-/

namespace FunctionConsole

/-- The screen that is shown. -/
inductive Screen where
  | login (s : LoginScreen)
  | functions (s : FunctionsScreen)
  | create (s : CreateScreen)
  | code (s : CodeScreen)
  | versions (s : VersionsScreen)
  | executions (s : ExecutionsScreen)
  | settings (s : SettingsScreen)
  | test (s : TestScreen)
  | diff (s : DiffScreen)
  | execution (s : ExecutionScreen)
  | gallery (s : GalleryScreen)
  deriving DecidableEq, Repr

namespace Screen

/-- A screen of some kind as the screen that is shown, its requests kept. -/
def entered {σ : Type} (wrap : σ → Screen) (p : σ × List Request) : Screen × List Request :=
  (wrap p.1, p.2)

/-- The fresh screen of an address, and the requests it needs on entry. -/
def ofRoute (ctx : ScreenContext) : Route → Screen × List Request
  | .login => (.login { redirect := .functions }, [])
  | .functions => entered .functions (FunctionsScreen.enter ctx)
  | .create => (.create {}, [])
  | .code id => entered .code (CodeScreen.enter id)
  | .versions id => entered .versions (VersionsScreen.enter id ctx)
  | .executions id => entered .executions (ExecutionsScreen.enter id ctx)
  | .settings id => entered .settings (SettingsScreen.enter id ctx)
  | .test id => entered .test (TestScreen.enter id ctx)
  | .diff id old new => entered .diff (DiffScreen.enter id old new)
  | .execution id => entered .execution (ExecutionScreen.enter id ctx)
  | .preview component => (.gallery (.enter component), [])

/-- What a key does to the screen; none if it is not the screen's key. -/
def handleKey (screen : Screen) (key : Key) : Option (Screen × Effects) :=
  match screen with
  | .login s => (s.handleKey key).map fun p => (.login p.1, p.2)
  | .functions s => (s.handleKey key).map fun p => (.functions p.1, p.2)
  | .create s => (s.handleKey key).map fun p => (.create p.1, p.2)
  | .code s => (s.handleKey key).map fun p => (.code p.1, p.2)
  | .versions s => (s.handleKey key).map fun p => (.versions p.1, p.2)
  | .executions s => (s.handleKey key).map fun p => (.executions p.1, p.2)
  | .settings s => (s.handleKey key).map fun p => (.settings p.1, p.2)
  | .test s => (s.handleKey key).map fun p => (.test p.1, p.2)
  | .diff s => (s.handleKey key).map fun p => (.diff p.1, p.2)
  | .execution s => (s.handleKey key).map fun p => (.execution p.1, p.2)
  | .gallery s => (s.handleKey key).map fun p => (.gallery p.1, p.2)

/-- What a response does to the screen. -/
def handleResponse (screen : Screen) (r : Response) : Screen × Effects :=
  match screen with
  | .login s => (.login (s.handleResponse r).1, (s.handleResponse r).2)
  | .functions s => (.functions (s.handleResponse r).1, (s.handleResponse r).2)
  | .create s => (.create (s.handleResponse r).1, (s.handleResponse r).2)
  | .code s => (.code (s.handleResponse r).1, (s.handleResponse r).2)
  | .versions s => (.versions (s.handleResponse r).1, (s.handleResponse r).2)
  | .executions s => (.executions (s.handleResponse r).1, (s.handleResponse r).2)
  | .settings s => (.settings (s.handleResponse r).1, (s.handleResponse r).2)
  | .test s => (.test (s.handleResponse r).1, (s.handleResponse r).2)
  | .diff s => (.diff (s.handleResponse r).1, (s.handleResponse r).2)
  | .execution s => (.execution (s.handleResponse r).1, (s.handleResponse r).2)
  | .gallery s => (.gallery s, .none)

/-- The function that the header shows. -/
def function? : Screen → Option Function
  | .code s => s.function.get?
  | .versions s => s.function.get?
  | .executions s => s.function.get?
  | .settings s => s.function.get?
  | .test s => s.function.get?
  | .diff s => s.function.get?
  | .execution s => s.function
  | _ => none

/-- The function that a shown execution belongs to, once that is known. -/
def executionFunctionId? : Screen → Option String
  | .execution s => s.execution.get?.map (·.functionId)
  | _ => none

end Screen

end FunctionConsole
