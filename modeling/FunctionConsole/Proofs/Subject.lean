import FunctionConsole.Screen

/-!
# What screens are about

Most screens are about one function, the one that their address names. This file says screen by
screen what they make of it, so that statements about the console never look inside a screen again:

- `Screen.handleKey_about`: a key changes neither which function a screen is about nor what it shows
  of it; and it makes the screen change or call only its own function, and ask no question but about
  that one. There is one exception, the question whether to delete: it names the function that the
  server has told the screen of.
- `Screen.handleResponse_heeds`, `Screen.handleResponse_function`: what a screen shows of a function
  is what the server told it last, and no response makes it change a function or call one.
- `Screen.ofRoute_subject`: a fresh screen is about the function of its address.
-/

namespace FunctionConsole

-- ==================================================== functions named

namespace Request

/-- The function that a request changes or calls. -/
def target? : Request → Option String
  | .updateFunction id _ | .updateEnv id _ | .deleteFunction id | .activateVersion id _
  | .invoke id _ => some id
  | _ => none

/-- Whether a request asks for a function. -/
def asksFunction : Request → Bool
  | .getFunction _ => true
  | _ => false

end Request

/-- The function that a change is made to. -/
def Mutation.target : Mutation → String
  | .deleteFunction id | .setDisabled id _ | .activateVersion id _ => id

namespace Screen

/-- The function that a screen is about. -/
def subject? : Screen → Option String
  | .code s => some s.id
  | .versions s => some s.id
  | .executions s => some s.id
  | .settings s => some s.id
  | .test s => some s.id
  | .diff s => some s.id
  | _ => none

/-- Whether a screen shows a function. An execution shows the one that it belongs to. -/
def hasFunction : Screen → Bool
  | .code _ | .versions _ | .executions _ | .settings _ | .test _ | .diff _ | .execution _ => true
  | _ => false

/-- A screen that is still about the same function and shows the same of it. -/
structure Keeps (screen screen' : Screen) : Prop where
  subject : screen'.subject? = screen.subject?
  hasFunction : screen'.hasFunction = screen.hasFunction
  function : screen'.function? = screen.function?

end Screen

-- ==================================================== effects about a function

namespace Effects

/-- Effects on behalf of a function: `subject` is the one that the screen is about, `shown` what it
shows of it. -/
structure About (subject : Option String) (shown : Option Function) (e : Effects) : Prop where
  unasked : ∀ r ∈ e.requests, r.asksFunction = false
  targets : ∀ r ∈ e.requests, ∀ id, r.target? = some id → subject = some id
  questions : ∀ d, e.confirm = some d → subject = some d.onConfirm.target ∨
    ∃ f, shown = some f ∧ d.onConfirm = .deleteFunction f.id

section

variable {subject : Option String} {shown : Option Function}

/-- Effects without requests and without a question are about any function. -/
theorem about_of_nothing {e : Effects} (hrequests : e.requests = [])
    (hconfirm : e.confirm = Option.none) : e.About subject shown :=
  ⟨by simp [hrequests], by simp [hrequests], by simp [hconfirm]⟩

@[simp] theorem none_about : none.About subject shown := about_of_nothing rfl rfl

@[simp] theorem goTo_about (route : Route) : (goTo route).About subject shown :=
  about_of_nothing rfl rfl

@[simp] theorem info_about (message : String) : (info message).About subject shown :=
  about_of_nothing rfl rfl

/-- A request alone, for the function that the screen is about or for none. -/
theorem request_about {r : Request} (hasks : r.asksFunction = false)
    (htarget : ∀ id, r.target? = some id → subject = some id) :
    (request r).About subject shown :=
  ⟨by simp [request, hasks], by simpa [request] using htarget, by simp [request]⟩

/-- A question alone, about the function that the screen is about. -/
theorem ask_about {d : Dialog} (h : subject = some d.onConfirm.target) :
    (ask d).About subject shown :=
  ⟨by simp [ask], by simp [ask], by simp [ask, h]⟩

end

end Effects

open Effects (none_about goTo_about info_about request_about ask_about about_of_nothing)

-- ==================================================== keys to screens about no function

section

variable {subject : Option String} {shown : Option Function} (key : Key)

theorem LoginScreen.submit_about (s : LoginScreen) : s.submit.2.About subject shown := by
  unfold submit
  split
  · exact request_about rfl (by simp [Request.target?])
  · exact none_about

theorem LoginScreen.handleKey_about (s : LoginScreen) :
    ∀ p ∈ s.handleKey key, p.2.About subject shown := by
  unfold handleKey
  split
  case h_1 | h_2 => simpa using s.submit_about
  case h_3 =>
      split
      split <;> simp

theorem FunctionsScreen.handleKey_about (s : FunctionsScreen) :
    ∀ p ∈ s.handleKey key, p.2.About subject shown := by
  unfold handleKey
  split
  · simp
  · split
    · simp
    · simpa using request_about rfl (by simp [pageRequest, Request.target?])
    · split
      · split <;> simp
      · simp
      · simp

theorem CreateScreen.submit_about (s : CreateScreen) : s.submit.2.About subject shown := by
  unfold submit
  split
  · exact none_about
  · dsimp only
    split
    · exact none_about
    · exact request_about rfl (by simp [Request.target?])

theorem CreateScreen.focusedKey_about (s : CreateScreen) :
    ∀ p ∈ s.focusedKey key, p.2.About subject shown := by
  unfold focusedKey
  split
  · split
    · simp
    · dsimp only
      split <;> simp
  · split
    · simp
    · dsimp only
      split <;> simp
  · unfold templateKey
    split <;> simp
  · split <;> simp [s.submit_about]

theorem CreateScreen.handleKey_about (s : CreateScreen) :
    ∀ p ∈ s.handleKey key, p.2.About subject shown := by
  unfold handleKey
  split
  case h_6 => exact s.focusedKey_about key
  all_goals simp [s.submit_about]

theorem GalleryScreen.handleKey_about (s : GalleryScreen) :
    ∀ p ∈ s.handleKey key, p.2.About subject shown := by
  unfold handleKey
  split
  case h_5 => simpa using about_of_nothing rfl rfl
  all_goals simp

/-- An execution belongs to a function but is about none. -/
theorem ExecutionScreen.handleKey_about (s : ExecutionScreen) :
    ∀ p ∈ s.handleKey key, p.1.function = s.function ∧ p.2.About subject shown := by
  unfold handleKey
  split
  · simp
  · simpa [turnTo] using request_about rfl (by simp [pageRequest, Request.target?])
  · simp

end

-- ==================================================== keys to screens about a function

namespace CodeScreen

theorem save_about (s : CodeScreen) :
    s.save.1.id = s.id ∧ s.save.1.function = s.function ∧
      s.save.2.About (some s.id) s.function.get? := by
  unfold save
  split
  · simp
  · split
    · exact ⟨rfl, rfl, request_about rfl (by simp [Request.target?])⟩
    · simp

theorem handleKey_about (s : CodeScreen) (key : Key) : ∀ p ∈ s.handleKey key,
    p.1.id = s.id ∧ p.1.function = s.function ∧ p.2.About (some s.id) s.function.get? := by
  unfold handleKey
  split
  · simpa using s.save_about
  · split
    · unfold editingKey
      split
      case h_3 =>
          dsimp only
          split <;> simp
      all_goals simp
    · unfold readingKey
      split
      case h_1 | h_2 | h_3 => split <;> simp
      all_goals simp

end CodeScreen

namespace VersionsScreen

theorem activate_about (s : VersionsScreen) : s.activate.About (some s.id) s.function.get? := by
  unfold activate
  split
  · exact none_about
  · split
    · exact info_about _
    · exact ask_about rfl

theorem toggleChecked_subject (s : VersionsScreen) (version : UInt32) :
    (s.toggleChecked version).id = s.id ∧ (s.toggleChecked version).function = s.function := by
  unfold toggleChecked
  split
  · exact ⟨rfl, rfl⟩
  · split <;> exact ⟨rfl, rfl⟩

theorem handleKey_about (s : VersionsScreen) (key : Key) : ∀ p ∈ s.handleKey key,
    p.1.id = s.id ∧ p.1.function = s.function ∧ p.2.About (some s.id) s.function.get? := by
  unfold handleKey
  split
  · simp
  · split
    · simp
    · simpa [turnTo] using request_about rfl (by simp [pageRequest, Request.target?])
    · split
      · split <;> simp [s.toggleChecked_subject]
      · simpa using s.activate_about
      · split <;> simp
      · simp

end VersionsScreen

namespace ExecutionsScreen

theorem handleKey_about (s : ExecutionsScreen) (key : Key) : ∀ p ∈ s.handleKey key,
    p.1.id = s.id ∧ p.1.function = s.function ∧ p.2.About (some s.id) s.function.get? := by
  unfold handleKey
  split
  · simp
  · split
    · simp
    · simpa [turnTo] using request_about rfl (by simp [pageRequest, Request.target?])
    · split
      · split <;> simp
      · simp

end ExecutionsScreen

namespace SettingsScreen

theorem saveGeneral_about (s : SettingsScreen) :
    s.saveGeneral.1.id = s.id ∧ s.saveGeneral.1.function = s.function ∧
      s.saveGeneral.2.About (some s.id) s.function.get? := by
  unfold saveGeneral
  split
  · simp
  · dsimp only
    split
    · simp
    · split
      · simp
      · exact ⟨rfl, rfl, request_about rfl (by simp [Request.target?])⟩

theorem saveEnv_about (s : SettingsScreen) :
    s.saveEnv.1.id = s.id ∧ s.saveEnv.1.function = s.function ∧
      s.saveEnv.2.About (some s.id) s.function.get? := by
  unfold saveEnv
  split
  · simp
  · split
    · exact ⟨rfl, rfl, request_about rfl (by simp [Request.target?])⟩
    · simp

theorem saveStatus_about (s : SettingsScreen) :
    s.saveStatus.About (some s.id) s.function.get? := by
  unfold saveStatus
  split
  · exact ask_about rfl
  · exact info_about _

/-- The question whether to delete names the function that the server told of, not the one that the
screen is about. -/
theorem requestDelete_about (s : SettingsScreen) :
    s.requestDelete.About (some s.id) s.function.get? := by
  unfold requestDelete
  split
  · next f hf =>
      refine ⟨by simp [Effects.ask], by simp [Effects.ask], fun d hd => .inr ⟨f, hf, ?_⟩⟩
      cases hd
      rfl
  · exact none_about

theorem generalKey_about (s : SettingsScreen) (key : Key) : ∀ p ∈ s.generalKey key,
    p.1.id = s.id ∧ p.1.function = s.function ∧ p.2.About (some s.id) s.function.get? := by
  unfold generalKey
  split
  · simp
  · simp
  · simpa using s.saveGeneral_about
  · -- a change takes the complaint away, and nothing else of the screen
    have hkept (changed : Prop) [Decidable changed] :
        (if changed then { s with generalError := none } else s).id = s.id ∧
          (if changed then { s with generalError := none } else s).function = s.function := by
      split <;> exact ⟨rfl, rfl⟩
    dsimp only
    split <;> split <;> simp [hkept]

theorem envKey_about (s : SettingsScreen) (key : Key) : ∀ p ∈ s.envKey key,
    p.1.id = s.id ∧ p.1.function = s.function ∧ p.2.About (some s.id) s.function.get? := by
  unfold envKey
  split
  case h_6 => simpa using s.saveEnv_about
  case h_7 =>
      dsimp only
      split <;> simp
  all_goals simp

theorem handleKey_about (s : SettingsScreen) (key : Key) : ∀ p ∈ s.handleKey key,
    p.1.id = s.id ∧ p.1.function = s.function ∧ p.2.About (some s.id) s.function.get? := by
  unfold handleKey
  split
  · simp
  · simp
  · split
    · unfold sectionKey
      split
      · exact s.generalKey_about key
      · exact s.envKey_about key
      · simp
      · split <;> simp [s.saveStatus_about]
      · split <;> simp [s.requestDelete_about]
    · simp

end SettingsScreen

namespace TestScreen

theorem send_about (s : TestScreen) :
    s.send.1.id = s.id ∧ s.send.1.function = s.function ∧
      s.send.2.About (some s.id) s.function.get? := by
  unfold send
  split
  · simp
  · split
    · simp
    · exact ⟨rfl, rfl, request_about rfl (by simp [Request.target?])⟩

theorem focusedKey_about (s : TestScreen) (key : Key) : ∀ p ∈ s.focusedKey key,
    p.1.id = s.id ∧ p.1.function = s.function ∧ p.2.About (some s.id) s.function.get? := by
  unfold focusedKey
  split
  case h_1 => split <;> simp
  case h_5 => split <;> simp [s.send_about]
  all_goals
    dsimp only
    split <;> simp

theorem handleKey_about (s : TestScreen) (key : Key) : ∀ p ∈ s.handleKey key,
    p.1.id = s.id ∧ p.1.function = s.function ∧ p.2.About (some s.id) s.function.get? := by
  unfold handleKey
  split
  case h_5 => exact s.focusedKey_about key
  all_goals simp [s.send_about]

end TestScreen

theorem DiffScreen.handleKey_about (s : DiffScreen) (key : Key) : ∀ p ∈ s.handleKey key,
    p.1.id = s.id ∧ p.1.function = s.function ∧ p.2.About (some s.id) s.function.get? := by
  unfold handleKey
  split
  · simp
  · simp
  · intro p hp
    obtain ⟨scroll, -, rfl⟩ := Option.map_eq_some_iff.mp hp
    exact ⟨rfl, rfl, none_about⟩

-- ==================================================== responses

namespace Effects

/-- Effects that change no function and call none. -/
def Untargeted (e : Effects) : Prop := ∀ r ∈ e.requests, r.target? = Option.none

/-- Effects without requests call no function. -/
theorem untargeted_of_nothing {e : Effects} (h : e.requests = []) : e.Untargeted := by
  simp [Untargeted, h]

/-- A request alone, which changes no function and calls none. -/
theorem request_untargeted {r : Request} (h : r.target? = Option.none) :
    (request r).Untargeted := by
  simp [Untargeted, request, h]

/-- A toast together with a request that changes no function and calls none. -/
theorem success_andRequest_untargeted (message : String) {r : Request}
    (h : r.target? = Option.none) : ((success message).andRequest r).Untargeted := by
  simp [Untargeted, success, toast, andRequest, h]

end Effects

/-- What a response makes of a screen: it is about the same function and shows the same of it,
unless the response brings the function; and it changes no function and calls none. -/
structure Screen.Heeds (screen : Screen) (r : Response) (p : Screen × Effects) : Prop where
  subject : p.1.subject? = screen.subject?
  function : (∀ result, r ≠ .function result) → p.1.function? = screen.function?
  untargeted : p.2.Untargeted

open Screen (Heeds)
open Effects (untargeted_of_nothing request_untargeted success_andRequest_untargeted)

section

variable (r : Response)

theorem LoginScreen.handleResponse_heeds (s : LoginScreen) :
    Heeds (.login s) r (.login (s.handleResponse r).1, (s.handleResponse r).2) := by
  unfold handleResponse
  split <;> exact ⟨rfl, fun _ => rfl, untargeted_of_nothing rfl⟩

theorem FunctionsScreen.handleResponse_heeds (s : FunctionsScreen) :
    Heeds (.functions s) r (.functions (s.handleResponse r).1, (s.handleResponse r).2) := by
  have hnothing (s' : FunctionsScreen) {e : Effects} (he : e.requests = []) :
      Heeds (.functions s) r (.functions s', e) := ⟨rfl, fun _ => rfl, untargeted_of_nothing he⟩
  unfold handleResponse
  split
  · split
    · exact hnothing _ rfl
    · split <;> exact hnothing _ rfl
  · exact hnothing _ rfl

theorem CreateScreen.handleResponse_heeds (s : CreateScreen) :
    Heeds (.create s) r (.create (s.handleResponse r).1, (s.handleResponse r).2) := by
  unfold handleResponse
  split <;> exact ⟨rfl, fun _ => rfl, untargeted_of_nothing rfl⟩

theorem CodeScreen.handleResponse_heeds (s : CodeScreen) :
    Heeds (.code s) r (.code (s.handleResponse r).1, (s.handleResponse r).2) := by
  unfold handleResponse
  split
  · exact ⟨rfl, fun h => absurd rfl (h _), untargeted_of_nothing rfl⟩
  · exact ⟨rfl, fun h => absurd rfl (h _), untargeted_of_nothing rfl⟩
  · exact ⟨rfl, fun _ => rfl, success_andRequest_untargeted _ rfl⟩
  · exact ⟨rfl, fun _ => rfl, untargeted_of_nothing rfl⟩
  · exact ⟨rfl, fun _ => rfl, untargeted_of_nothing rfl⟩

theorem VersionsScreen.handleResponse_heeds (s : VersionsScreen) :
    Heeds (.versions s) r (.versions (s.handleResponse r).1, (s.handleResponse r).2) := by
  unfold handleResponse
  split
  · exact ⟨rfl, fun h => absurd rfl (h _), untargeted_of_nothing rfl⟩
  · exact ⟨rfl, fun h => absurd rfl (h _), untargeted_of_nothing rfl⟩
  · split
    · exact ⟨rfl, fun _ => rfl, untargeted_of_nothing rfl⟩
    · split <;> exact ⟨rfl, fun _ => rfl, untargeted_of_nothing rfl⟩
  · refine ⟨rfl, fun _ => rfl, ?_⟩
    simp [Effects.Untargeted, reload, Effects.andToast, pageRequest, Request.target?]
  · exact ⟨rfl, fun _ => rfl, untargeted_of_nothing rfl⟩
  · exact ⟨rfl, fun _ => rfl, untargeted_of_nothing rfl⟩

theorem ExecutionsScreen.handleResponse_heeds (s : ExecutionsScreen) :
    Heeds (.executions s) r (.executions (s.handleResponse r).1, (s.handleResponse r).2) := by
  unfold handleResponse
  split
  · exact ⟨rfl, fun h => absurd rfl (h _), untargeted_of_nothing rfl⟩
  · exact ⟨rfl, fun h => absurd rfl (h _), untargeted_of_nothing rfl⟩
  · split
    · exact ⟨rfl, fun _ => rfl, untargeted_of_nothing rfl⟩
    · split <;> exact ⟨rfl, fun _ => rfl, untargeted_of_nothing rfl⟩
  · exact ⟨rfl, fun _ => rfl, untargeted_of_nothing rfl⟩

theorem SettingsScreen.functionUpdated_heeds (s : SettingsScreen) (patch : FunctionPatch)
    (result : ApiError.Result Unit) : Heeds (.settings s) r
      (.settings (s.functionUpdated patch result).1, (s.functionUpdated patch result).2) := by
  unfold functionUpdated
  dsimp only
  split
  · exact ⟨rfl, fun _ => rfl, success_andRequest_untargeted _ rfl⟩
  · exact ⟨rfl, fun _ => rfl, untargeted_of_nothing rfl⟩
  · exact ⟨rfl, fun _ => rfl, success_andRequest_untargeted _ rfl⟩
  · unfold generalFailed
    dsimp only
    split
    · split <;> exact ⟨rfl, fun _ => rfl, untargeted_of_nothing rfl⟩
    · exact ⟨rfl, fun _ => rfl, untargeted_of_nothing rfl⟩

theorem SettingsScreen.handleResponse_heeds (s : SettingsScreen) :
    Heeds (.settings s) r (.settings (s.handleResponse r).1, (s.handleResponse r).2) := by
  unfold handleResponse
  split
  case h_1 | h_2 => exact ⟨rfl, fun h => absurd rfl (h _), untargeted_of_nothing rfl⟩
  case h_3 => exact s.functionUpdated_heeds _ _ _
  case h_4 => exact ⟨rfl, fun _ => rfl, success_andRequest_untargeted _ rfl⟩
  all_goals exact ⟨rfl, fun _ => rfl, untargeted_of_nothing rfl⟩

theorem TestScreen.handleResponse_heeds (s : TestScreen) :
    Heeds (.test s) r (.test (s.handleResponse r).1, (s.handleResponse r).2) := by
  unfold handleResponse
  split
  case h_1 | h_2 => exact ⟨rfl, fun h => absurd rfl (h _), untargeted_of_nothing rfl⟩
  case h_3 =>
      split
      · exact ⟨rfl, fun _ => rfl, request_untargeted rfl⟩
      · exact ⟨rfl, fun _ => rfl, untargeted_of_nothing rfl⟩
  all_goals exact ⟨rfl, fun _ => rfl, untargeted_of_nothing rfl⟩

theorem DiffScreen.handleResponse_heeds (s : DiffScreen) :
    Heeds (.diff s) r (.diff (s.handleResponse r).1, (s.handleResponse r).2) := by
  unfold handleResponse
  split
  case h_1 | h_2 => exact ⟨rfl, fun h => absurd rfl (h _), untargeted_of_nothing rfl⟩
  all_goals exact ⟨rfl, fun _ => rfl, untargeted_of_nothing rfl⟩

theorem ExecutionScreen.handleResponse_heeds (s : ExecutionScreen) :
    Heeds (.execution s) r (.execution (s.handleResponse r).1, (s.handleResponse r).2) := by
  unfold handleResponse
  split
  · exact ⟨rfl, fun _ => rfl, request_untargeted rfl⟩
  · exact ⟨rfl, fun _ => rfl, untargeted_of_nothing rfl⟩
  · exact ⟨rfl, fun h => absurd rfl (h _), untargeted_of_nothing rfl⟩
  · split
    · exact ⟨rfl, fun _ => rfl, untargeted_of_nothing rfl⟩
    · split <;> exact ⟨rfl, fun _ => rfl, untargeted_of_nothing rfl⟩
  · exact ⟨rfl, fun _ => rfl, untargeted_of_nothing rfl⟩

end

-- ==================================================== every screen

namespace Screen

/-- A key to a screen asks for nothing, and raises no question, about any function but the one that
the screen is about; only the question whether to delete names the function that is shown. -/
theorem handleKey_about {screen screen' : Screen} {key : Key} {e : Effects}
    (h : screen.handleKey key = some (screen', e)) :
    screen.Keeps screen' ∧ e.About screen.subject? screen.function? := by
  -- a screen that keeps its id and its function is about the same one and shows the same of it
  have hkept {id id' : String} {f f' : Loadable Function} (hid : id' = id) (hf : f' = f) :
      some id' = some id ∧ f'.get? = f.get? := by simp [hid, hf]
  cases screen <;> obtain ⟨p, hp, heq⟩ := Option.map_eq_some_iff.mp h <;> cases heq
  case login s | functions s | create s | gallery s =>
      exact ⟨⟨rfl, rfl, rfl⟩, s.handleKey_about key p hp⟩
  case execution s =>
      obtain ⟨hf, habout⟩ := s.handleKey_about key p hp
      exact ⟨⟨rfl, rfl, hf⟩, habout⟩
  case code s | versions s | executions s | settings s | test s | diff s =>
      obtain ⟨hid, hf, habout⟩ := s.handleKey_about key p hp
      obtain ⟨hsubject, hfunction⟩ := hkept hid hf
      exact ⟨⟨hsubject, rfl, hfunction⟩, habout⟩

section

variable (screen : Screen)

/-- A response changes neither which function a screen is about nor, unless it brings one, what is
shown of it; and it makes a screen change no function and call none. -/
theorem handleResponse_heeds (r : Response) : screen.Heeds r (screen.handleResponse r) := by
  cases screen with
  | gallery s => exact ⟨rfl, fun _ => rfl, untargeted_of_nothing rfl⟩
  | login s | functions s | create s | code s | versions s | executions s | settings s | test s
  | diff s | execution s => exact s.handleResponse_heeds r

/-- Whether a screen shows a function is settled when it opens; no response changes it. -/
theorem handleResponse_hasFunction (r : Response) :
    (screen.handleResponse r).1.hasFunction = screen.hasFunction := by
  cases screen <;> rfl

/-- A function that the server tells of is shown. -/
theorem handleResponse_function {screen : Screen} (h : screen.hasFunction = true) (f : Function) :
    (screen.handleResponse (.function (.ok f))).1.function? = some f := by
  cases screen <;> cases h <;> rfl

/-- What is shown of a function was shown before, or the server has just told of it. -/
theorem function?_of_handleResponse {screen : Screen} {r : Response} {f : Function}
    (h : (screen.handleResponse r).1.function? = some f) :
    screen.function? = some f ∨ r = .function (.ok f) := by
  by_cases hr : ∃ result, r = .function result
  · obtain ⟨result, rfl⟩ := hr
    cases result with
    | ok f' =>
        cases screen <;> cases h <;> exact .inr rfl
    | error e =>
        cases screen with
        | execution s => exact .inl h
        | _ => cases h
  · exact .inl ((screen.handleResponse_heeds r).function (fun result heq => hr ⟨result, heq⟩) ▸ h)

/-- After a response only a screen that shows a function asks for anything. -/
theorem handleResponse_requests {screen : Screen} (h : screen.hasFunction = false) (r : Response) :
    (screen.handleResponse r).2.requests = [] := by
  cases screen with
  | login s =>
      show (s.handleResponse r).2.requests = []
      unfold LoginScreen.handleResponse
      split <;> rfl
  | functions s =>
      show (s.handleResponse r).2.requests = []
      unfold FunctionsScreen.handleResponse
      split
      · split
        · rfl
        · split <;> rfl
      · rfl
  | create s =>
      show (s.handleResponse r).2.requests = []
      unfold CreateScreen.handleResponse
      split <;> rfl
  | gallery s => rfl
  | _ => cases h

/-- A fresh screen is about the function of its address, and shows nothing of it yet. On entry no
function is changed or called, and one is asked for only if it is going to be shown. -/
theorem ofRoute_subject (ctx : ScreenContext) (route : Route) :
    (ofRoute ctx route).1.subject? = route.functionId? ∧
      (ofRoute ctx route).1.function? = none ∧
      ∀ r ∈ (ofRoute ctx route).2, r.target? = none ∧
        (r.asksFunction = true → (ofRoute ctx route).1.hasFunction = true) := by
  refine ⟨by cases route <;> rfl, by cases route <;> rfl, ?_⟩
  cases route <;>
    simp [ofRoute, entered, FunctionsScreen.enter, FunctionsScreen.pageRequest, CodeScreen.enter,
      VersionsScreen.enter, VersionsScreen.pageRequest, ExecutionsScreen.enter,
      ExecutionsScreen.pageRequest, SettingsScreen.enter, TestScreen.enter, DiffScreen.enter,
      ExecutionScreen.enter, ExecutionScreen.pageRequest, Request.target?, Request.asksFunction,
      hasFunction]

end

end Screen

end FunctionConsole
