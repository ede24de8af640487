import FunctionConsole.ApiReference
import FunctionConsole.Editor.TextArea
import FunctionConsole.Screen.Basic

/-!
# Code of a function

An editor on the code of the active version, beside the reference of the runtime. While the code is
being edited all keys but a few go to the editor. Unsaved text survives a new copy of the function.
-/

namespace FunctionConsole

/-- The screen with a function's code. -/
structure CodeScreen where
  id : String
  function : Loadable Function := .loading
  editor : TextArea := {}
  editing : Bool := false
  saving : Bool := false
  apiTab : Nat := 0
  deriving DecidableEq, Repr

namespace CodeScreen

/-- What the tab key inserts while the code is being edited. -/
def indent : String := "    "

/-- The screen on entry, and its requests. -/
def enter (id : String) : CodeScreen × List Request := ({ id }, [.getFunction id])

/-- The text in the editor, if it differs from the active version. -/
def editedCode (s : CodeScreen) : Option String :=
  s.function.get?.bind fun f =>
    if s.editor.text ≠ f.activeVersion.code then some s.editor.text else none

/-- The section of the reference that is shown. -/
def apiSection (s : CodeScreen) : ApiSection := ApiSection.get s.apiTab

/-- Saves the text, unless it is on its way or is no change. -/
def save (s : CodeScreen) : CodeScreen × Effects :=
  if s.saving then (s, .none)
  else match s.editedCode with
    | some code =>
      ({ s with saving := true }, .request (.updateFunction s.id { code := some code }))
    | none => (s, .info "No changes to save")

/-- What a key does while the code is being edited. -/
def editingKey (s : CodeScreen) : Key → Option (CodeScreen × Effects)
  | .esc => some ({ s with editing := false }, .none)
  | .tab => some ({ s with editor := s.editor.insertString indent }, .none)
  | key =>
    let (editor, effect) := s.editor.handleKey key
    if effect.consumed then some ({ s with editor }, .none) else none

/-- What a key does while the code is only looked at. -/
def readingKey (s : CodeScreen) (key : Key) : Option (CodeScreen × Effects) :=
  match key with
  | .enter | .char 'e' | .char 'i' =>
    if s.function.get?.isSome then some ({ s with editing := true }, .none) else none
  | .tab | .char ']' => some ({ s with apiTab := (s.apiTab + 1) % ApiSection.all.length }, .none)
  | .backTab | .char '[' =>
    some ({ s with
      apiTab := (s.apiTab + ApiSection.all.length - 1) % ApiSection.all.length }, .none)
  | .up | .down | .pageUp | .pageDown | .home | .toEnd =>
    some ({ s with editor := (s.editor.handleKey key).1 }, .none)
  | _ => none

/-- What a key does. -/
def handleKey (s : CodeScreen) (key : Key) : Option (CodeScreen × Effects) :=
  if key = .ctrl 's' then some s.save
  else if s.editing then s.editingKey key
  else s.readingKey key

/-- The screen with a new copy of the function. -/
def receive (s : CodeScreen) (f : Function) : CodeScreen :=
  let editor :=
    if s.editedCode.isNone && s.editor.text ≠ f.activeVersion.code then
      TextArea.ofString f.activeVersion.code
    else s.editor
  { s with editor, function := .loaded f }

/-- What a response does. -/
def handleResponse (s : CodeScreen) : Response → CodeScreen × Effects
  | .function (.ok f) => (s.receive f, .none)
  | .function (.error e) => ({ s with function := .notFound }, .failure e.message)
  | .functionUpdated _ (.ok _) =>
    ({ s with saving := false },
      (Effects.success "Code saved successfully").andRequest (.getFunction s.id))
  | .functionUpdated _ (.error e) =>
    ({ s with saving := false }, .failure ("Failed to save code: " ++ e.message))
  | _ => (s, .none)

end CodeScreen

end FunctionConsole
