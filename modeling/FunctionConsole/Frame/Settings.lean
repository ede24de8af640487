import FunctionConsole.Canvas.Table
import FunctionConsole.Piece.Button
import FunctionConsole.Piece.Field
import FunctionConsole.Piece.FunctionFrame
import FunctionConsole.Screen.Settings

/-!
# The settings of a function, drawn

The sections on the left, and the one in focus on the right.
-/

namespace FunctionConsole.SettingsScreen

-- ==================================================== general fields

/-- The complaint about a field. -/
def faultOf (s : SettingsScreen) (field : GeneralField) : Option HelpText :=
  match s.generalError with
  | some (f, message) => if f = field then some (.fault message) else none
  | none => none

/-- The field for the name. -/
def nameField (s : SettingsScreen) : InputField :=
  { label := "Name", input := s.name, focused := s.field == .name, help := s.faultOf .name }

/-- The field for the description. -/
def descriptionField (s : SettingsScreen) : InputField :=
  { label := "Description", input := s.description, focused := s.field == .description
    placeholder := some "No description", help := s.faultOf .description }

/-- The button that saves the fields. -/
def saveButton (s : SettingsScreen) : Button :=
  { label := if s.saving then "Saving..." else "Save Changes (Ctrl+S)"
    disabled := !(s.editedName.isSome || s.editedDescription.isSome) || s.saving }

/-- Draws the general fields. -/
def drawGeneral (s : SettingsScreen) (area : Rect) (b : Buffer) : Buffer :=
  let card : Card :=
    { title := "General", subtitle := some "Basic information about your function", focused := true }
  let part := Layout.part <| Layout.rows (card.inner area)
    [.length s.nameField.height, .length s.descriptionField.height, .length 1, .length 1]
  let b := s.nameField.draw (part 0) (card.draw area b)
  s.saveButton.draw (part 3) (s.descriptionField.draw (part 1) b)

-- ==================================================== variables

/-- The sign of how a row stands to the server's copy. -/
def rowSign : RowState → Span
  | .unchanged => { text := "  " }
  | .added => { text := "+ ", style := Theme.good }
  | .modified => { text := "~ ", style := Theme.care }
  | .removed => { text := "- ", style := Theme.bad }

/-- A cell of a variable; `active` says whether it is the one that takes keys. -/
def envCell (input : TextInput) (removed active : Bool) : Line :=
  let style :=
    if removed then Theme.muted.crossedOut
    else if active then Theme.activeTab
    else Theme.primary
  .ofText (if input.display = "" then " " else input.display) style

/-- The row of a variable. -/
def envRow (e : EnvEditor) (row : EnvRow) (i : Nat) : List Line :=
  let removed := row.state == .removed
  let active (c : EnvColumn) : Bool := i == e.selected && e.column == c
  [.ofSpan (rowSign row.state), envCell row.key removed (active .key),
   envCell row.value removed (active .value)]

/-- The table of the variables. -/
def envTable (e : EnvEditor) : Table :=
  { header := ["", "Key", "Value"]
    widths := [.length 2, .percentage 40, .fill 1]
    rows := e.rows.zipIdx.map fun (row, i) => envRow e row i
    selected := some e.selected }

/-- Draws the variables without what frames them. -/
def drawVars (e : EnvEditor) (area : Rect) (b : Buffer) : Buffer :=
  if e.isEmpty then drawHint "No environment variables. Press Ctrl+N to add one." area b
  else (envTable e).draw area b

/-- Draws the variables, with a complaint above them if there is one. -/
def drawEnv (s : SettingsScreen) (area : Rect) (b : Buffer) : Buffer :=
  let card : Card :=
    { title := "Environment Variables"
      subtitle := some "Ctrl+N add · Ctrl+D remove · Enter switch column · Ctrl+S save"
      focused := true }
  let b := card.draw area b
  let inner := card.inner area
  match s.envError with
  | none => drawVars s.env inner b
  | some e =>
    let part := Layout.part (Layout.rows inner [.length 2, .min 1])
    drawVars s.env (part 1) <|
      b.drawParagraph (part 0) { lines := [.ofText e Theme.bad], wrap := some true }

-- ==================================================== the other sections

/-- Draws the public address and its methods. -/
def drawNetwork (s : SettingsScreen) (area : Rect) (b : Buffer) : Buffer :=
  let card : Card :=
    { title := "Network", subtitle := some "How to call this function over HTTP", focused := true }
  let methods := supportedMethods.flatMap fun m => [(Badge.mk m .outline).span, { text := " " }]
  (card.draw area b).drawParagraph (card.inner area)
    { lines :=
        [.ofText "Invocation URL" Theme.secondary, .ofText s.invocationUrl Theme.accent, {},
         { spans := { text := "Supported methods  ", style := Theme.secondary } :: methods }] }

/-- Draws the switch. -/
def drawStatus (s : SettingsScreen) (area : Rect) (b : Buffer) : Buffer :=
  let card : Card :=
    { title := "Function Status", subtitle := some "Disabled functions reject invocations"
      tone := .care, focused := true }
  let toggle : Span :=
    if s.enabled then { text := "[●] Enabled", style := Theme.good }
    else { text := "[ ] Disabled", style := Theme.bad }
  (card.draw area b).drawParagraph (card.inner area)
    { lines :=
        { spans := [toggle, { text := "   Space to toggle", style := Theme.muted }] } ::
          if s.statusChange.isSome then
            [{}, .ofText "Unsaved change · press Ctrl+S to apply" Theme.care]
          else [] }

/-- Draws the danger zone. -/
def drawDanger (s : SettingsScreen) (area : Rect) (b : Buffer) : Buffer :=
  let card : Card :=
    { title := "Danger Zone", subtitle := some "Irreversible actions", tone := .danger
      focused := true }
  let part := Layout.part (Layout.rows (card.inner area) [.length 2, .length 1, .length 1])
  let button : Button :=
    { label := "Delete Function", tone := .danger, focused := true, disabled := s.saving }
  button.draw (part 2) <| (card.draw area b).drawParagraph (part 0)
    { lines :=
        [.ofText "Deleting a function removes its versions, executions and logs." Theme.secondary]
      wrap := some true }

-- ==================================================== the screen

/-- Draws the section in focus. -/
def drawSection (s : SettingsScreen) : Rect → Buffer → Buffer :=
  match s.sect with
  | .general => s.drawGeneral
  | .environment => s.drawEnv
  | .network => s.drawNetwork
  | .status => s.drawStatus
  | .danger => s.drawDanger

/-- Draws the sections and the one in focus. -/
def drawContent (s : SettingsScreen) (area : Rect) (b : Buffer) : Buffer :=
  let part := Layout.part (Layout.columns area [.length 26, .fill 1] 1)
  let card : Card := { title := "Settings" }
  s.drawSection (part 1) <|
    drawMenu SettingsSection.all SettingsSection.label s.sect (card.inner (part 0))
      (card.draw (part 0) b)

/-- Draws the screen. -/
def draw (s : SettingsScreen) : Rect → Buffer → Buffer :=
  drawFunctionFrame s.function (some .settings) s.drawContent

end FunctionConsole.SettingsScreen
