import FunctionConsole.Editor.EnvEditor
import FunctionConsole.Screen.Basic

/-!
# Settings of a function

Five sections share the screen: the general fields, the environment variables, the network, the
switch and the danger zone. Only the section in focus takes keys. The switch and the deletion ask
before they act; the rest is saved directly. What the user has changed and not saved survives a new
copy of the function, because each field is compared with the copy that the screen had before.
-/

namespace FunctionConsole

/-- The sections of the settings. -/
inductive SettingsSection where
  | general
  | environment
  | network
  | status
  | danger
  deriving DecidableEq, Repr, Inhabited

namespace SettingsSection

/-- The label of a section. -/
def label : SettingsSection → String
  | .general => "General"
  | .environment => "Environment Variables"
  | .network => "Network"
  | .status => "Function Status"
  | .danger => "Danger Zone"

/-- The sections in their order. -/
def all : List SettingsSection := [.general, .environment, .network, .status, .danger]

/-- The position of a section. -/
def index : SettingsSection → Nat
  | .general => 0
  | .environment => 1
  | .network => 2
  | .status => 3
  | .danger => 4

/-- The next section; after the last comes the first. -/
def next : SettingsSection → SettingsSection
  | .general => .environment
  | .environment => .network
  | .network => .status
  | .status => .danger
  | .danger => .general

/-- The section before. -/
def prev : SettingsSection → SettingsSection
  | .general => .danger
  | .environment => .general
  | .network => .environment
  | .status => .network
  | .danger => .status

end SettingsSection

/-- The fields of the general section. -/
inductive GeneralField where
  | name
  | description
  deriving DecidableEq, Repr, Inhabited

/-- The general field that a complaint of the server is about. -/
def GeneralField.ofName? : String → Option GeneralField
  | "name" => some .name
  | "description" => some .description
  | _ => none

/-- The public address of a function. -/
def invocationAddress (baseUrl id : String) : String :=
  String.ofList (Text.dropEndWhile (· == '/') baseUrl.toList) ++ "/fn/" ++ id

/-- The screen with a function's settings. -/
structure SettingsScreen where
  id : String
  function : Loadable Function := .loading
  sect : SettingsSection := .general
  field : GeneralField := .name
  name : TextInput := {}
  description : TextInput := {}
  generalError : Option (GeneralField × String) := none
  env : EnvEditor := {}
  envError : Option String := none
  /-- The position of the switch, saved or not. -/
  enabled : Bool := true
  saving : Bool := false
  baseUrl : String
  deriving DecidableEq, Repr

namespace SettingsScreen

/-- The methods that the public address takes, as the network section lists them. -/
def supportedMethods : List String := ["GET", "POST", "PUT", "PATCH", "DELETE"]

/-- The screen on entry, and its requests. -/
def enter (id : String) (ctx : ScreenContext) : SettingsScreen × List Request :=
  ({ id, baseUrl := ctx.baseUrl }, [.getFunction id])

/-- The public address of the function. -/
def invocationUrl (s : SettingsScreen) : String := invocationAddress s.baseUrl s.id

/-- The name, if it differs from the server's. -/
def editedName (s : SettingsScreen) : Option String :=
  s.function.get?.bind fun f => if s.name.value ≠ f.name then some s.name.value else none

/-- The description, if it differs from the server's; none counts as an empty one. -/
def editedDescription (s : SettingsScreen) : Option String :=
  s.function.get?.bind fun f =>
    if s.description.value ≠ f.description.getD "" then some s.description.value else none

/-- What `disabled` would become, if the switch differs from the server's copy. -/
def statusChange (s : SettingsScreen) : Option Bool :=
  s.function.get?.bind fun f => if s.enabled = f.disabled then some (!s.enabled) else none

/-- The fields filled in from a new copy of the function, those with unsaved changes left alone. -/
def seed (s : SettingsScreen) (f : Function) : SettingsScreen :=
  { s with
    name := if s.editedName.isNone then .ofString f.name else s.name
    description :=
      if s.editedDescription.isNone then .ofString (f.description.getD "") else s.description
    env := if s.env.hasChanges then s.env else .ofVars f.envVars
    enabled := if s.statusChange.isNone then !f.disabled else s.enabled }

/-- Saves the name and the description as far as they were changed. -/
def saveGeneral (s : SettingsScreen) : SettingsScreen × Effects :=
  if s.saving then (s, .none)
  else
    let patch : FunctionPatch := { name := s.editedName, description := s.editedDescription }
    if patch.isEmpty then (s, .info "No changes to save")
    else if patch.name.any Text.isAllBlank then
      ({ s with generalError := some (.name, "Name is required") }, .none)
    else
      ({ s with generalError := none, saving := true }, .request (.updateFunction s.id patch))

/-- Saves the variables, if any was changed. -/
def saveEnv (s : SettingsScreen) : SettingsScreen × Effects :=
  if s.saving then (s, .none)
  else if s.env.hasChanges then
    ({ s with envError := none, saving := true }, .request (.updateEnv s.id s.env.collect))
  else (s, .info "No changes to save")

/-- Asks whether to save the switch. -/
def saveStatus (s : SettingsScreen) : Effects :=
  match s.statusChange with
  | some disabled => .ask (.setDisabled s.id disabled)
  | none => .info "No changes to save"

/-- Asks whether to delete the function. -/
def requestDelete (s : SettingsScreen) : Effects :=
  match s.function.get? with
  | some f => .ask (.deleteFunction f.id f.name)
  | none => .none

/-- What a key does to the general fields. -/
def generalKey (s : SettingsScreen) : Key → Option (SettingsScreen × Effects)
  | .up => some ({ s with field := .name }, .none)
  | .down => some ({ s with field := .description }, .none)
  | .ctrl 's' => some s.saveGeneral
  | key =>
    let input := match s.field with | .name => s.name | .description => s.description
    let (input', effect) := input.handleKey key
    let s' := if effect.changed then { s with generalError := none } else s
    if effect.consumed then
      match s.field with
      | .name => some ({ s' with name := input' }, .none)
      | .description => some ({ s' with description := input' }, .none)
    else none

/-- What a key does to the variables. -/
def envKey (s : SettingsScreen) : Key → Option (SettingsScreen × Effects)
  | .up => some ({ s with env := s.env.selectPrevious }, .none)
  | .down => some ({ s with env := s.env.selectNext }, .none)
  | .enter => some ({ s with env := s.env.toggleColumn }, .none)
  | .ctrl 'n' => some ({ s with env := s.env.add }, .none)
  | .ctrl 'd' => some ({ s with env := s.env.toggleRemove s.env.selected }, .none)
  | .ctrl 's' => some s.saveEnv
  | key =>
    let (env, effect) := s.env.editSelected key
    if effect.consumed then some ({ s with env }, .none) else none

/-- What a key does to the section in focus. -/
def sectionKey (s : SettingsScreen) (key : Key) : Option (SettingsScreen × Effects) :=
  match s.sect with
  | .general => s.generalKey key
  | .environment => s.envKey key
  | .network => none
  | .status =>
    match key with
    | .char ' ' | .enter => some ({ s with enabled := !s.enabled }, .none)
    | .ctrl 's' => some (s, s.saveStatus)
    | _ => none
  | .danger =>
    match key with
    | .enter | .char 'd' => some (s, s.requestDelete)
    | _ => none

/-- What a key does. Before the function has arrived only the sections can be changed. -/
def handleKey (s : SettingsScreen) : Key → Option (SettingsScreen × Effects)
  | .tab => some ({ s with sect := s.sect.next }, .none)
  | .backTab => some ({ s with sect := s.sect.prev }, .none)
  | key => if s.function.get?.isSome then s.sectionKey key else none

/-- The screen after its general fields could not be saved. -/
def generalFailed (s : SettingsScreen) (e : ApiError) : SettingsScreen × Effects :=
  let toast := Effects.failure ("Failed to save settings: " ++ e.message)
  match e with
  | .validation field message =>
    match GeneralField.ofName? field with
    | some f => ({ s with generalError := some (f, message) }, .none)
    | none => (s, toast)
  | _ => (s, toast)

/-- The screen after an answer to a change of the function. -/
def functionUpdated (s : SettingsScreen) (patch : FunctionPatch) (result : ApiError.Result Unit) :
    SettingsScreen × Effects :=
  let s := { s with saving := false }
  match patch.disabled, result with
  | some disabled, .ok _ =>
    (s, (Effects.success ("Function " ++ (if disabled then "disabled" else "enabled") ++
      " successfully")).andRequest (.getFunction s.id))
  | some _, .error e => (s, .failure ("Failed to update status: " ++ e.message))
  | none, .ok _ =>
    (s, (Effects.success "Settings saved successfully").andRequest (.getFunction s.id))
  | none, .error e => s.generalFailed e

/-- What a response does. -/
def handleResponse (s : SettingsScreen) : Response → SettingsScreen × Effects
  | .function (.ok f) => ({ s.seed f with function := .loaded f }, .none)
  | .function (.error e) => ({ s with function := .notFound }, .failure e.message)
  | .functionUpdated patch result => s.functionUpdated patch result
  | .envUpdated (.ok _) =>
    ({ s with saving := false, env := s.env.commit },
      (Effects.success "Environment variables updated").andRequest (.getFunction s.id))
  | .envUpdated (.error e) => ({ s with saving := false, envError := some e.message }, .none)
  | .functionDeleted (.ok _) =>
    (s, (Effects.success "Function deleted successfully").andGoTo .functions)
  | .functionDeleted (.error e) => (s, .failure ("Failed to delete function: " ++ e.message))
  | _ => (s, .none)

end SettingsScreen

end FunctionConsole
