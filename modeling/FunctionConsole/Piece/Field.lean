import FunctionConsole.Canvas.Box
import FunctionConsole.Editor.TextArea
import FunctionConsole.Editor.TextInput
import FunctionConsole.Piece.CodeView

/-!
# Fields of a form

Inputs in a box with a label, and perhaps a line of help or a fault below it. The cursor is drawn
only in the field that has the keys.
-/

namespace FunctionConsole

/-- The line below a field. -/
inductive HelpText where
  | normal (text : String)
  | fault (text : String)
  deriving DecidableEq, Repr, Inhabited

namespace HelpText

/-- Whether the line tells of a fault. -/
def isFault : HelpText → Bool
  | .normal _ => false
  | .fault _ => true

/-- The line as it is drawn. -/
def line : HelpText → Line
  | .normal text => { spans := [{ text := " " }, { text, style := Theme.muted }] }
  | .fault text => { spans := [{ text := " " }, { text, style := Theme.bad }] }

end HelpText

/-- The box of a field. -/
def fieldBox (label : String) (focused : Bool) (help : Option HelpText) : Box :=
  { border :=
      if help.any HelpText.isFault then Theme.bad
      else if focused then Theme.activeEdge
      else Theme.edge
    title := some
      { text := " " ++ label ++ " "
        style := if focused then Theme.strongAccent else Theme.secondary } }

-- ==================================================== one line

/-- A field for one line. -/
structure InputField where
  label : String
  input : TextInput
  focused : Bool := false
  /-- What an empty field shows while it does not have the keys. -/
  placeholder : Option String := none
  help : Option HelpText := none
  deriving DecidableEq, Repr, Inhabited

namespace InputField

/-- The rows of the box. -/
def boxHeight : Nat := 3

/-- The rows that a field takes. -/
def height (f : InputField) : Nat := boxHeight + if f.help.isSome then 1 else 0

/-- What stands in the box. -/
def content (f : InputField) : Line :=
  if f.focused then { spans := cursorSpans f.input.display.toList f.input.cursor }
  else
    match f.input.isEmpty, f.placeholder with
    | true, some p => .ofText p Theme.muted
    | _, _ => .ofText f.input.display Theme.primary

/-- Draws a field. -/
def draw (f : InputField) (area : Rect) (b : Buffer) : Buffer :=
  let box := { area with height := min boxHeight area.height }
  let b := (b.drawBox box (fieldBox f.label f.focused f.help)).drawLine (Box.inner box) f.content
  match f.help with
  | some help => if boxHeight < area.height then b.drawLine (area.row boxHeight) help.line else b
  | none => b

end InputField

-- ==================================================== many lines

/-- A field for many lines. -/
structure TextField where
  label : String
  area : TextArea
  focused : Bool := false
  help : Option HelpText := none
  deriving DecidableEq, Repr, Inhabited

namespace TextField

/-- What stands in the box. -/
def content (f : TextField) : CodeView :=
  { lines := f.area.lines, cursor := if f.focused then some (f.area.row, f.area.col) else none }

/-- Draws a field. The line below the box is left out if there are no more than three rows. -/
def draw (f : TextField) (area : Rect) (b : Buffer) : Buffer :=
  let help := if 3 < area.height then f.help else none
  let box := { area with height := area.height - if help.isSome then 1 else 0 }
  let b := f.content.draw (Box.inner box) (b.drawBox box (fieldBox f.label f.focused f.help))
  match help with
  | some help => b.drawLine (area.row (area.height - 1)) help.line
  | none => b

end TextField

end FunctionConsole
