import FunctionConsole.Editor.TextInput
import FunctionConsole.Screen.Basic
import FunctionConsole.Template

/-!
# New function

A form with a name, a description and a starter template. Complaints are kept by the field they are
about, whether they come from the form itself or from the server.
-/

namespace FunctionConsole

/-- The parts of the form that take keys. -/
inductive CreateField where
  | name
  | description
  | template
  | submit
  deriving DecidableEq, Repr, Inhabited

namespace CreateField

/-- The next part; after the last comes the first. -/
def next : CreateField → CreateField
  | .name => .description
  | .description => .template
  | .template => .submit
  | .submit => .name

/-- The part before. -/
def prev : CreateField → CreateField
  | .name => .submit
  | .description => .name
  | .template => .description
  | .submit => .template

end CreateField

/-- The screen with the form for a new function. -/
structure CreateScreen where
  name : TextInput := {}
  description : TextInput := {}
  template : Nat := 0
  focus : CreateField := .name
  /-- The complaint about each field. -/
  errors : List (String × String) := []
  submitting : Bool := false
  deriving DecidableEq, Repr, Inhabited

namespace CreateScreen

/-- The template that is chosen. -/
def selectedTemplate (s : CreateScreen) : Template := Template.get s.template

/-- The complaint about a field. -/
def fieldError (s : CreateScreen) (field : String) : Option String :=
  (s.errors.find? fun e => e.1 = field).map (·.2)

/-- Drops the complaint about a field. -/
def dropError (s : CreateScreen) (field : String) : CreateScreen :=
  { s with errors := s.errors.filter fun e => e.1 ≠ field }

/-- Sends the form, unless it is on its way; a blank name is complained about instead. -/
def submit (s : CreateScreen) : CreateScreen × Effects :=
  if s.submitting then (s, .none)
  else
    let name := Text.trim s.name.value
    if name = "" then
      ({ s with errors := [("name", "Name is required")], focus := .name }, .none)
    else
      ({ s with errors := [], submitting := true },
        .request (.createFunction
          { name
            description := Text.trim s.description.value
            code := s.selectedTemplate.code }))

/-- Chooses another template. -/
def choose (s : CreateScreen) (template : Nat) : CreateScreen :=
  { s.dropError "code" with template }

/-- What a key does to the template picker. -/
def templateKey (s : CreateScreen) : Key → Option (CreateScreen × Effects)
  | .left | .char 'h' =>
    some (s.choose ((s.template + Template.all.length - 1) % Template.all.length), .none)
  | .right | .char 'l' | .char ' ' => some (s.choose ((s.template + 1) % Template.all.length), .none)
  | .enter => some ({ s with focus := .submit }, .none)
  | _ => none

/-- What a key does to the part that has the focus. -/
def focusedKey (s : CreateScreen) (key : Key) : Option (CreateScreen × Effects) :=
  match s.focus with
  | .name =>
    if key = .enter then some ({ s with focus := .description }, .none)
    else
      let (name, effect) := s.name.handleKey key
      let s' := if effect.changed then s.dropError "name" else s
      if effect.consumed then some ({ s' with name }, .none) else none
  | .description =>
    if key = .enter then some ({ s with focus := .template }, .none)
    else
      let (description, effect) := s.description.handleKey key
      let s' := if effect.changed then s.dropError "description" else s
      if effect.consumed then some ({ s' with description }, .none) else none
  | .template => s.templateKey key
  | .submit =>
    match key with
    | .enter | .char ' ' => some s.submit
    | _ => none

/-- What a key does. -/
def handleKey (s : CreateScreen) : Key → Option (CreateScreen × Effects)
  | .ctrl 's' => some s.submit
  | .tab | .down => some ({ s with focus := s.focus.next }, .none)
  | .backTab | .up => some ({ s with focus := s.focus.prev }, .none)
  | key => s.focusedKey key

/-- What a response does. -/
def handleResponse (s : CreateScreen) : Response → CreateScreen × Effects
  | .functionCreated (.ok _) =>
    ({ s with submitting := false },
      (Effects.success "Function created successfully").andGoTo .functions)
  | .functionCreated (.error (.validation field message)) =>
    ({ s with submitting := false, errors := putField field message s.errors }, .none)
  | .functionCreated (.error e) =>
    ({ s with submitting := false }, .failure ("Failed to create function: " ++ e.message))
  | _ => (s, .none)

end CreateScreen

end FunctionConsole
