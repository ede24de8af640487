import FunctionConsole.Canvas.Layout
import FunctionConsole.Piece.Button
import FunctionConsole.Piece.Card
import FunctionConsole.Piece.Field
import FunctionConsole.Screen.Create

/-!
# The form for a new function, drawn

The form on the left, and on the right the code that the new function starts with.
-/

namespace FunctionConsole.CreateScreen

/-- The card around the form. -/
def card : Card :=
  { title := "Create Function", subtitle := some "Give it a name and pick a starter template" }

/-- The field for the name. -/
def nameField (s : CreateScreen) : InputField :=
  { label := "Name", input := s.name, focused := s.focus == .name
    placeholder := some "my-function", help := (s.fieldError "name").map .fault }

/-- The field for the description. -/
def descriptionField (s : CreateScreen) : InputField :=
  { label := "Description", input := s.description, focused := s.focus == .description
    placeholder := some "What does this function do?"
    help := (s.fieldError "description").map .fault }

/-- The label of the templates. -/
def templateLabel (s : CreateScreen) : Line :=
  .ofText " Template" (if s.focus = .template then Theme.strongAccent else Theme.secondary)

/-- The line of the template at a position. -/
def templateLine (s : CreateScreen) (t : Template) (i : Nat) : Line :=
  let selected := i == s.template
  let style :=
    if selected && s.focus = .template then Theme.activeTab
    else if selected then Theme.strong
    else Theme.secondary
  { spans :=
      [{ text := if selected then "  ● " else "  ○ ", style := Theme.accent },
       { text := t.name, style }, { text := "  " ++ t.description, style := Theme.muted }] }

/-- The templates to choose from. -/
def templateLines (s : CreateScreen) : List Line :=
  Template.all.zipIdx.map fun (t, i) => s.templateLine t i

/-- The button that sends the form. -/
def button (s : CreateScreen) : Button :=
  { label := if s.submitting then "Creating..." else "Create Function"
    focused := s.focus == .submit, disabled := s.submitting }

/-- Draws the form. -/
def drawForm (s : CreateScreen) (area : Rect) (b : Buffer) : Buffer :=
  let part := Layout.part <| Layout.rows (card.inner area)
    [.length s.nameField.height, .length s.descriptionField.height, .length 1,
     .length Template.all.length, .min 0, .length 1]
  let b := s.nameField.draw (part 0) (card.draw area b)
  let b := (s.descriptionField.draw (part 1) b).drawLine (part 2) s.templateLabel
  s.button.draw (part 5) (b.drawParagraph (part 3) { lines := s.templateLines })

/-- Draws the code of the chosen template. -/
def drawTemplate (s : CreateScreen) (area : Rect) (b : Buffer) : Buffer :=
  let t := s.selectedTemplate
  let card : Card := { title := t.name ++ " Template" }
  (CodeView.ofText t.code).draw (card.inner area) (card.draw area b)

/-- Draws the screen. -/
def draw (s : CreateScreen) (area : Rect) (b : Buffer) : Buffer :=
  let part := Layout.part (Layout.columns area [.percentage 50, .percentage 50] 1)
  s.drawTemplate (part 1) (s.drawForm (part 0) b)

end FunctionConsole.CreateScreen
