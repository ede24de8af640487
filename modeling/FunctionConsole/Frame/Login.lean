import FunctionConsole.Canvas.Layout
import FunctionConsole.Piece.Button
import FunctionConsole.Piece.Card
import FunctionConsole.Piece.Field
import FunctionConsole.Screen.Login

/-!
# The login screen, drawn
-/

namespace FunctionConsole.LoginScreen

/-- The card around the form. -/
def card : Card :=
  { title := "Lunar Console", subtitle := some "Enter your API key to continue", focused := true }

/-- The field for the key. -/
def field (s : LoginScreen) : InputField :=
  { label := "API Key", input := s.apiKey, focused := !s.submitting
    placeholder := some "Paste your API key"
    help := some <| match s.error with
      | some e => .fault e
      | none => .normal "The key is sent once to start a session" }

/-- The button that sends the key. -/
def button (s : LoginScreen) : Button :=
  { label := if s.submitting then "Signing in..." else "Sign in", disabled := !s.canSubmit }

/-- Draws the screen. -/
def draw (s : LoginScreen) (area : Rect) (b : Buffer) : Buffer :=
  let rect := Rect.centered 60 11 area
  let part := Layout.part (Layout.rows (card.inner rect) [.length s.field.height, .length 1, .length 1])
  s.button.draw (part 2) (s.field.draw (part 0) (card.draw rect b))

end FunctionConsole.LoginScreen
