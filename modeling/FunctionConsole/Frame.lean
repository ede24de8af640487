import FunctionConsole.Console
import FunctionConsole.Frame.Code
import FunctionConsole.Frame.Create
import FunctionConsole.Frame.Diff
import FunctionConsole.Frame.Execution
import FunctionConsole.Frame.Executions
import FunctionConsole.Frame.Functions
import FunctionConsole.Frame.Gallery
import FunctionConsole.Frame.Login
import FunctionConsole.Frame.Settings
import FunctionConsole.Frame.Test
import FunctionConsole.Frame.Versions
import FunctionConsole.Piece.DialogWindow
import FunctionConsole.Piece.PaletteWindow

/-!
# Frames

The whole picture of the console: the trail at the top, the screen, the keys at the bottom, and over
them what is open at the moment: the palette, a question, the toasts.
-/

namespace FunctionConsole

/-- Draws whichever screen is shown, with moments in the time zone of who looks at it. -/
def Screen.draw (zone : TimeZone) : Screen → Rect → Buffer → Buffer
  | .login s => s.draw
  | .functions s => s.draw
  | .create s => s.draw
  | .code s => s.draw
  | .versions s => s.draw zone
  | .executions s => s.draw zone
  | .settings s => s.draw
  | .test s => s.draw zone
  | .diff s => s.draw
  | .execution s => s.draw zone
  | .gallery s => s.draw zone

/-- The keys of a screen. -/
def Screen.hints : Screen → KeyHints
  | .login _ => [("Enter", "sign in"), ("Ctrl+C", "quit")]
  | .functions _ => [("Enter", "open"), ("n", "new"), ("[ ]", "page"), ("r", "reload")]
  | .create _ => [("Tab", "next field"), ("Ctrl+S", "create"), ("Esc", "back")]
  | .code s =>
    if s.editing then [("Esc", "stop editing"), ("Ctrl+S", "save")]
    else [("e", "edit"), ("Ctrl+S", "save"), ("Tab", "api ref")]
  | .versions _ => [("Space", "select"), ("c", "compare"), ("a", "activate")]
  | .executions _ => [("Enter", "details"), ("[ ]", "page")]
  | .settings _ => [("Tab", "section"), ("Ctrl+S", "save")]
  | .test _ => [("Tab", "field"), ("Ctrl+S", "send"), ("Ctrl+E", "language")]
  | .diff _ => [("↑↓", "scroll")]
  | .execution _ => [("↑↓", "scroll"), ("[ ]", "log page")]
  | .gallery _ => [("↑↓", "component"), ("t", "toasts")]

namespace Console

/-- The trail in the header; the id of a function gives way to its name once that is known. -/
def trail (c : Console) : List String :=
  match c.currentFunction, c.route.functionId? with
  | some f, some id => c.route.breadcrumb.map fun step => if step = id then f.name else step
  | _, _ => c.route.breadcrumb

/-- The keys of what is in front; those of the console itself do not work on the login screen. -/
def hints (c : Console) : KeyHints :=
  if c.confirm.isSome then [("y", "confirm"), ("n", "cancel")]
  else if c.palette.isOpen then [("Enter", "go"), ("Esc", "close")]
  else if c.route = .login then c.screen.hints
  else c.screen.hints ++ [("Ctrl+K", "search"), ("Esc", "back"), ("q", "quit")]

/-- Draws the palette, if it is open. -/
def drawPalette (c : Console) (area : Rect) (b : Buffer) : Buffer :=
  if c.palette.isOpen then c.palette.draw area b else b

/-- Draws the question, if there is one. -/
def drawConfirm (c : Console) (area : Rect) (b : Buffer) : Buffer :=
  match c.confirm with
  | some d => d.draw area b
  | none => b

/-- The picture of the console in a time zone, on a screen of a size. -/
def frame (c : Console) (zone : TimeZone) (width height : Nat) : Buffer :=
  let area : Rect := ⟨0, 0, width, height⟩
  let areas := ScreenAreas.of area
  let b := (Buffer.blank width height).paint area (.ofBg Theme.ground)
  let b := TrailBar.draw c.trail (c.route ≠ .login) areas.header b
  let b := c.screen.draw zone areas.body.inset b
  let b := c.hints.draw areas.footer b
  let b := c.drawConfirm area (c.drawPalette area b)
  ToastStack.draw c.toasts.items
    { area with y := areas.body.y, height := areas.body.height } b

end Console

end FunctionConsole
