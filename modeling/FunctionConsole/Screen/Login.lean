import FunctionConsole.Editor.TextInput
import FunctionConsole.Screen.Basic

/-!
# Login screen
-/

namespace FunctionConsole

/-- The screen that asks for an API key. -/
structure LoginScreen where
  apiKey : TextInput := .secret
  submitting : Bool := false
  error : Option String := none
  /-- The screen that follows a login. -/
  redirect : Route
  deriving DecidableEq, Repr

namespace LoginScreen

/-- Whether there is a key to submit and none is on its way. -/
def canSubmit (s : LoginScreen) : Bool := !s.submitting && !Text.isAllBlank s.apiKey.value

/-- Submits the trimmed key. -/
def submit (s : LoginScreen) : LoginScreen × Effects :=
  if s.canSubmit then
    ({ s with submitting := true, error := none },
      .request (.login (Text.trim s.apiKey.value)))
  else (s, .none)

/-- The screen with a known key already submitted. -/
def submitted (apiKey : String) (redirect : Route) : LoginScreen × List Request :=
  let s : LoginScreen := { apiKey := TextInput.secret.setValue apiKey, redirect }
  (s.submit.1, s.submit.2.requests)

/-- What a key does. -/
def handleKey (s : LoginScreen) : Key → Option (LoginScreen × Effects)
  | .enter | .ctrl 's' => some s.submit
  | key =>
    let (apiKey, effect) := s.apiKey.handleKey key
    if effect.consumed then
      some ({ s with apiKey, error := if effect.changed then none else s.error }, .none)
    else none

/-- What a response does. -/
def handleResponse (s : LoginScreen) : Response → LoginScreen × Effects
  | .loggedIn (.ok _) => ({ s with submitting := false }, .goTo s.redirect)
  | .loggedIn (.error e) => ({ s with submitting := false, error := some e.message }, .none)
  | _ => (s, .none)

end LoginScreen

end FunctionConsole
