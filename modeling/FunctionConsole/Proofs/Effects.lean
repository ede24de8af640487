import FunctionConsole.Screen

/-!
# What screens ask for

A screen touches nothing but itself; everything else it wants it names in its effects. This file
says once what those effects can be, screen by screen, so that statements about the console never
look inside a screen again.

- `Screen.handleKey_orderly`: a key never makes a screen ask the server and leave at once, and never
  makes it send a request that has to be confirmed.
- `Screen.handleResponse_quiet`: neither does a response; besides, a response raises no question,
  and leads to the login screen only where the login screen itself would lead back to itself.
- `Screen.ofRoute_harmless`: the requests on entry need no confirmation.
-/

namespace FunctionConsole

/-- A request that destroys something or takes a function in or out of service. -/
def Request.needsConfirmation : Request → Bool
  | .deleteFunction _ | .activateVersion _ _ => true
  | .updateFunction _ patch => patch.disabled.isSome
  | _ => false

-- ==================================================== orderly effects

namespace Effects

/-- Effects of a screen that keeps to its own business: it does not ask the server for something and
leave at once, and it sends no request that has to be confirmed. -/
structure Orderly (e : Effects) : Prop where
  unmixed : e.requests = [] ∨ e.navigate = Option.none
  harmless : ∀ r ∈ e.requests, r.needsConfirmation = false

/-- Effects of a response: orderly, without a question, and without a way to the login screen. -/
structure Quiet (e : Effects) : Prop extends Orderly e where
  unquestioning : e.confirm = Option.none
  unlocking : e.navigate ≠ some .login

@[simp] theorem none_quiet : none.Quiet := ⟨⟨.inl rfl, by simp [none]⟩, rfl, by simp [none]⟩

@[simp] theorem none_orderly : none.Orderly := none_quiet.toOrderly

@[simp] theorem toast_quiet (message : String) (kind : ToastKind) : (toast message kind).Quiet :=
  ⟨⟨.inl rfl, by simp [toast]⟩, rfl, by simp [toast]⟩

@[simp] theorem failure_quiet (message : String) : (failure message).Quiet := toast_quiet _ _

@[simp] theorem success_quiet (message : String) : (success message).Quiet := toast_quiet _ _

@[simp] theorem info_orderly (message : String) : (info message).Orderly :=
  (toast_quiet _ _).toOrderly

@[simp] theorem ask_orderly (dialog : Dialog) : (ask dialog).Orderly :=
  ⟨.inl rfl, by simp [ask]⟩

@[simp] theorem goTo_orderly (route : Route) : (goTo route).Orderly := ⟨.inl rfl, by simp [goTo]⟩

/-- A request alone is quiet unless it has to be confirmed. -/
theorem request_quiet {r : Request} (h : r.needsConfirmation = false) : (request r).Quiet :=
  ⟨⟨.inr rfl, by simp [request, h]⟩, rfl, by simp [request]⟩

/-- A request alone is orderly unless it has to be confirmed. -/
theorem request_orderly {r : Request} (h : r.needsConfirmation = false) : (request r).Orderly :=
  (request_quiet h).toOrderly

/-- Going somewhere else than to the login screen is quiet. -/
theorem goTo_quiet {route : Route} (h : route ≠ .login) : (goTo route).Quiet :=
  ⟨⟨.inl rfl, by simp [goTo]⟩, rfl, by simp [goTo, h]⟩

/-- A toast together with a request is quiet unless the request has to be confirmed. -/
theorem success_andRequest_quiet (message : String) {r : Request}
    (h : r.needsConfirmation = false) : ((success message).andRequest r).Quiet :=
  ⟨⟨.inr rfl, by simp [success, toast, andRequest, h]⟩, rfl, by simp [success, toast, andRequest]⟩

/-- A toast together with a way out is quiet unless that leads to the login screen. -/
theorem success_andGoTo_quiet (message : String) {route : Route} (h : route ≠ .login) :
    ((success message).andGoTo route).Quiet :=
  ⟨⟨.inl rfl, by simp [success, toast, andGoTo]⟩, rfl, by simp [success, toast, andGoTo, h]⟩

/-- More toasts keep effects quiet. -/
theorem Quiet.andToast {e : Effects} (h : e.Quiet) (message : String) (kind : ToastKind) :
    (e.andToast message kind).Quiet :=
  ⟨⟨h.unmixed, h.harmless⟩, h.unquestioning, h.unlocking⟩

end Effects

open Effects (none_orderly none_quiet failure_quiet info_orderly ask_orderly goTo_orderly
  request_orderly request_quiet)

-- ==================================================== login

namespace LoginScreen

theorem submit_orderly (s : LoginScreen) : s.submit.2.Orderly := by
  unfold submit
  split
  · exact request_orderly rfl
  · exact none_orderly

theorem handleKey_orderly (s : LoginScreen) (key : Key) : ∀ p ∈ s.handleKey key, p.2.Orderly := by
  unfold handleKey
  split
  case h_1 | h_2 => simpa using s.submit_orderly
  case h_3 =>
      split
      split <;> simp

/-- The login screen raises no question. -/
theorem handleKey_confirm (s : LoginScreen) (key : Key) :
    ∀ p ∈ s.handleKey key, p.2.confirm = none := by
  unfold handleKey
  split
  case h_1 | h_2 =>
      unfold submit
      split <;> simp [Effects.request, Effects.none]
  case h_3 =>
      split
      split <;> simp [Effects.none]

/-- Where a login leads is settled when the login screen opens; no key changes it. -/
theorem handleKey_redirect (s : LoginScreen) (key : Key) :
    ∀ p ∈ s.handleKey key, p.1.redirect = s.redirect := by
  unfold handleKey
  split
  case h_1 | h_2 =>
      unfold submit
      split <;> simp
  case h_3 =>
      split
      split <;> simp

/-- Where a login leads is settled when the login screen opens; no response changes it. -/
theorem handleResponse_redirect (s : LoginScreen) (r : Response) :
    (s.handleResponse r).1.redirect = s.redirect := by
  unfold handleResponse
  split <;> rfl

theorem handleResponse_confirm (s : LoginScreen) (r : Response) :
    (s.handleResponse r).2.confirm = none := by
  unfold handleResponse
  split <;> rfl

theorem handleResponse_orderly (s : LoginScreen) (r : Response) :
    (s.handleResponse r).2.Orderly := by
  unfold handleResponse
  split <;> simp

theorem handleResponse_quiet {s : LoginScreen} (h : s.redirect ≠ .login) (r : Response) :
    (s.handleResponse r).2.Quiet := by
  unfold handleResponse
  split
  · exact Effects.goTo_quiet h
  · exact none_quiet
  · exact none_quiet

end LoginScreen

-- ==================================================== lists

namespace FunctionsScreen

theorem handleKey_orderly (s : FunctionsScreen) (key : Key) :
    ∀ p ∈ s.handleKey key, p.2.Orderly := by
  unfold handleKey
  split
  · simp
  · split
    · simp
    · simpa using request_orderly rfl
    · split
      · split <;> simp
      · simp
      · simp

theorem handleResponse_quiet (s : FunctionsScreen) (r : Response) :
    (s.handleResponse r).2.Quiet := by
  unfold handleResponse
  split
  · split
    · exact none_quiet
    · split <;> simp
  · exact none_quiet

end FunctionsScreen

namespace ExecutionsScreen

theorem handleKey_orderly (s : ExecutionsScreen) (key : Key) :
    ∀ p ∈ s.handleKey key, p.2.Orderly := by
  unfold handleKey
  split
  · simp
  · split
    · simp
    · simpa using request_orderly rfl
    · split
      · split <;> simp
      · simp

theorem handleResponse_quiet (s : ExecutionsScreen) (r : Response) :
    (s.handleResponse r).2.Quiet := by
  unfold handleResponse
  split
  · exact none_quiet
  · exact failure_quiet _
  · split
    · exact none_quiet
    · split <;> simp
  · exact none_quiet

end ExecutionsScreen

namespace VersionsScreen

theorem activate_orderly (s : VersionsScreen) : s.activate.Orderly := by
  unfold activate
  split
  · exact none_orderly
  · split <;> simp

theorem handleKey_orderly (s : VersionsScreen) (key : Key) :
    ∀ p ∈ s.handleKey key, p.2.Orderly := by
  unfold handleKey
  split
  · simp
  · split
    · simp
    · simpa using request_orderly rfl
    · split
      · split <;> simp
      · simpa using s.activate_orderly
      · split <;> simp
      · simp

/-- Loading anew asks for the function and the page, neither of which has to be confirmed. -/
theorem reload_quiet (s : VersionsScreen) : s.reload.2.Quiet :=
  ⟨⟨.inr rfl, by simp [reload, pageRequest, Request.needsConfirmation]⟩, rfl, by simp [reload]⟩

theorem handleResponse_quiet (s : VersionsScreen) (r : Response) :
    (s.handleResponse r).2.Quiet := by
  unfold handleResponse
  split
  · exact none_quiet
  · exact failure_quiet _
  · split
    · exact none_quiet
    · split <;> simp
  · exact s.reload_quiet.andToast _ _
  · exact failure_quiet _
  · exact none_quiet

end VersionsScreen

-- ==================================================== forms

namespace CreateScreen

theorem submit_orderly (s : CreateScreen) : s.submit.2.Orderly := by
  unfold submit
  split
  · exact none_orderly
  · dsimp only
    split
    · exact none_orderly
    · exact request_orderly rfl

theorem templateKey_orderly (s : CreateScreen) (key : Key) :
    ∀ p ∈ s.templateKey key, p.2.Orderly := by
  unfold templateKey
  split <;> simp

theorem focusedKey_orderly (s : CreateScreen) (key : Key) :
    ∀ p ∈ s.focusedKey key, p.2.Orderly := by
  unfold focusedKey
  split
  · split
    · simp
    · dsimp only
      split <;> simp
  · split
    · simp
    · dsimp only
      split <;> simp
  · exact s.templateKey_orderly key
  · split <;> simp [s.submit_orderly]

theorem handleKey_orderly (s : CreateScreen) (key : Key) : ∀ p ∈ s.handleKey key, p.2.Orderly := by
  unfold handleKey
  split
  case h_6 => exact s.focusedKey_orderly key
  all_goals simp [s.submit_orderly]

theorem handleResponse_quiet (s : CreateScreen) (r : Response) : (s.handleResponse r).2.Quiet := by
  unfold handleResponse
  split
  · exact Effects.success_andGoTo_quiet _ (by simp)
  · exact none_quiet
  · exact failure_quiet _
  · exact none_quiet

end CreateScreen

namespace CodeScreen

theorem save_orderly (s : CodeScreen) : s.save.2.Orderly := by
  unfold save
  split
  · exact none_orderly
  · split
    · exact request_orderly rfl
    · exact info_orderly _

theorem editingKey_orderly (s : CodeScreen) (key : Key) :
    ∀ p ∈ s.editingKey key, p.2.Orderly := by
  unfold editingKey
  split
  · simp
  · simp
  · dsimp only
    split <;> simp

theorem readingKey_orderly (s : CodeScreen) (key : Key) :
    ∀ p ∈ s.readingKey key, p.2.Orderly := by
  unfold readingKey
  split
  case h_1 | h_2 | h_3 => split <;> simp
  all_goals simp

theorem handleKey_orderly (s : CodeScreen) (key : Key) : ∀ p ∈ s.handleKey key, p.2.Orderly := by
  unfold handleKey
  split
  · simpa using s.save_orderly
  · split
    · exact s.editingKey_orderly key
    · exact s.readingKey_orderly key

theorem handleResponse_quiet (s : CodeScreen) (r : Response) : (s.handleResponse r).2.Quiet := by
  unfold handleResponse
  split
  · exact none_quiet
  · exact failure_quiet _
  · exact Effects.success_andRequest_quiet _ rfl
  · exact failure_quiet _
  · exact none_quiet

end CodeScreen

namespace TestScreen

theorem send_orderly (s : TestScreen) : s.send.2.Orderly := by
  unfold send
  split
  · exact none_orderly
  · split
    · exact none_orderly
    · exact request_orderly rfl

theorem focusedKey_orderly (s : TestScreen) (key : Key) :
    ∀ p ∈ s.focusedKey key, p.2.Orderly := by
  unfold focusedKey
  split
  case h_1 => split <;> simp
  case h_5 => split <;> simp [s.send_orderly]
  all_goals
    dsimp only
    split <;> simp

theorem handleKey_orderly (s : TestScreen) (key : Key) : ∀ p ∈ s.handleKey key, p.2.Orderly := by
  unfold handleKey
  split
  case h_5 => exact s.focusedKey_orderly key
  all_goals simp [s.send_orderly]

theorem handleResponse_quiet (s : TestScreen) (r : Response) : (s.handleResponse r).2.Quiet := by
  unfold handleResponse
  split
  case h_3 =>
      split
      · exact request_quiet rfl
      · exact none_quiet
  all_goals simp

end TestScreen

namespace SettingsScreen

theorem saveGeneral_orderly (s : SettingsScreen) : s.saveGeneral.2.Orderly := by
  unfold saveGeneral
  split
  · exact none_orderly
  · dsimp only
    split
    · exact info_orderly _
    · split
      · exact none_orderly
      · exact request_orderly rfl

theorem saveEnv_orderly (s : SettingsScreen) : s.saveEnv.2.Orderly := by
  unfold saveEnv
  split
  · exact none_orderly
  · split
    · exact request_orderly rfl
    · exact info_orderly _

theorem saveStatus_orderly (s : SettingsScreen) : s.saveStatus.Orderly := by
  unfold saveStatus
  split <;> simp

theorem requestDelete_orderly (s : SettingsScreen) : s.requestDelete.Orderly := by
  unfold requestDelete
  split <;> simp

theorem generalKey_orderly (s : SettingsScreen) (key : Key) :
    ∀ p ∈ s.generalKey key, p.2.Orderly := by
  unfold generalKey
  split
  · simp
  · simp
  · simpa using s.saveGeneral_orderly
  · dsimp only
    split
    · split <;> simp
    · simp

theorem envKey_orderly (s : SettingsScreen) (key : Key) : ∀ p ∈ s.envKey key, p.2.Orderly := by
  unfold envKey
  split
  case h_6 => simpa using s.saveEnv_orderly
  case h_7 =>
      dsimp only
      split <;> simp
  all_goals simp

theorem sectionKey_orderly (s : SettingsScreen) (key : Key) :
    ∀ p ∈ s.sectionKey key, p.2.Orderly := by
  unfold sectionKey
  split
  · exact s.generalKey_orderly key
  · exact s.envKey_orderly key
  · simp
  · split <;> simp [s.saveStatus_orderly]
  · split <;> simp [s.requestDelete_orderly]

theorem handleKey_orderly (s : SettingsScreen) (key : Key) :
    ∀ p ∈ s.handleKey key, p.2.Orderly := by
  unfold handleKey
  split
  · simp
  · simp
  · split
    · exact s.sectionKey_orderly key
    · simp

theorem generalFailed_quiet (s : SettingsScreen) (e : ApiError) :
    (s.generalFailed e).2.Quiet := by
  unfold generalFailed
  dsimp only
  split
  · split <;> simp
  · exact failure_quiet _

theorem functionUpdated_quiet (s : SettingsScreen) (patch : FunctionPatch)
    (result : ApiError.Result Unit) : (s.functionUpdated patch result).2.Quiet := by
  unfold functionUpdated
  dsimp only
  split
  · exact Effects.success_andRequest_quiet _ rfl
  · exact failure_quiet _
  · exact Effects.success_andRequest_quiet _ rfl
  · exact generalFailed_quiet _ _

theorem handleResponse_quiet (s : SettingsScreen) (r : Response) :
    (s.handleResponse r).2.Quiet := by
  unfold handleResponse
  split
  · exact none_quiet
  · exact failure_quiet _
  · exact s.functionUpdated_quiet _ _
  · exact Effects.success_andRequest_quiet _ rfl
  · exact none_quiet
  · exact Effects.success_andGoTo_quiet _ (by simp)
  · exact failure_quiet _
  · exact none_quiet

end SettingsScreen

-- ==================================================== details

namespace DiffScreen

theorem handleKey_orderly (s : DiffScreen) (key : Key) : ∀ p ∈ s.handleKey key, p.2.Orderly := by
  unfold handleKey
  split <;> simp

theorem handleResponse_quiet (s : DiffScreen) (r : Response) : (s.handleResponse r).2.Quiet := by
  unfold handleResponse
  split <;> simp

end DiffScreen

namespace ExecutionScreen

theorem handleKey_orderly (s : ExecutionScreen) (key : Key) :
    ∀ p ∈ s.handleKey key, p.2.Orderly := by
  unfold handleKey
  split
  · simp
  · simpa using request_orderly rfl
  · simp

theorem handleResponse_quiet (s : ExecutionScreen) (r : Response) :
    (s.handleResponse r).2.Quiet := by
  unfold handleResponse
  split
  · exact request_quiet rfl
  · exact failure_quiet _
  · exact none_quiet
  · split
    · exact none_quiet
    · split <;> simp
  · exact none_quiet

end ExecutionScreen

/-- The gallery's sample toasts are all it ever asks for besides another piece. -/
theorem GalleryScreen.handleKey_orderly (s : GalleryScreen) (key : Key) :
    ∀ p ∈ s.handleKey key, p.2.Orderly := by
  unfold handleKey
  split
  case h_5 => simpa using (((Effects.success_quiet _).andToast _ _).andToast _ _).toOrderly
  all_goals simp

-- ==================================================== every screen

namespace Screen

/-- Where a login leads, on the login screen. -/
def redirect? : Screen → Option Route
  | .login s => some s.redirect
  | _ => none

/-- A key turns no screen into another, nor changes where a login leads. -/
theorem handleKey_redirect? {screen screen' : Screen} {key : Key} {e : Effects}
    (h : screen.handleKey key = some (screen', e)) : screen'.redirect? = screen.redirect? := by
  cases screen <;> obtain ⟨p, hp, heq⟩ := Option.map_eq_some_iff.mp h <;> cases heq
  case login s => exact congrArg some (s.handleKey_redirect key p hp)
  all_goals rfl

/-- A key to the login screen raises no question. -/
theorem handleKey_confirm_of_login {screen screen' : Screen} {key : Key} {e : Effects}
    (hlogin : screen.redirect?.isSome = true) (h : screen.handleKey key = some (screen', e)) :
    e.confirm = none := by
  cases screen with
  | login s =>
      obtain ⟨p, hp, heq⟩ := Option.map_eq_some_iff.mp h
      cases heq
      exact s.handleKey_confirm key p hp
  | _ => cases hlogin

/-- A response turns no screen into another, nor changes where a login leads. -/
theorem handleResponse_redirect? (screen : Screen) (r : Response) :
    (screen.handleResponse r).1.redirect? = screen.redirect? := by
  cases screen with
  | login s => exact congrArg some (s.handleResponse_redirect r)
  | _ => rfl

/-- Among fresh screens only the login screen is one, and it leads to the functions. -/
theorem ofRoute_redirect? (ctx : ScreenContext) (route : Route) :
    (ofRoute ctx route).1.redirect? = if route = .login then some .functions else none := by
  cases route <;> rfl

/-- A key makes no screen ask and leave at once, nor send what has to be confirmed. -/
theorem handleKey_orderly {screen screen' : Screen} {key : Key} {e : Effects}
    (h : screen.handleKey key = some (screen', e)) : e.Orderly := by
  cases screen <;> obtain ⟨p, hp, heq⟩ := Option.map_eq_some_iff.mp h <;> cases heq
  case login s => exact s.handleKey_orderly key p hp
  case functions s => exact s.handleKey_orderly key p hp
  case create s => exact s.handleKey_orderly key p hp
  case code s => exact s.handleKey_orderly key p hp
  case versions s => exact s.handleKey_orderly key p hp
  case executions s => exact s.handleKey_orderly key p hp
  case settings s => exact s.handleKey_orderly key p hp
  case test s => exact s.handleKey_orderly key p hp
  case diff s => exact s.handleKey_orderly key p hp
  case execution s => exact s.handleKey_orderly key p hp
  case gallery s => exact s.handleKey_orderly key p hp

/-- A response makes a screen raise no question and send nothing that has to be confirmed, and it
leads to the login screen from nowhere, unless the login screen has been told to lead there. -/
theorem handleResponse_quiet {screen : Screen} (h : screen.redirect? ≠ some .login) (r : Response) :
    (screen.handleResponse r).2.Quiet := by
  cases screen with
  | login s => exact LoginScreen.handleResponse_quiet (by simpa [redirect?] using h) r
  | functions s => exact s.handleResponse_quiet r
  | create s => exact s.handleResponse_quiet r
  | code s => exact s.handleResponse_quiet r
  | versions s => exact s.handleResponse_quiet r
  | executions s => exact s.handleResponse_quiet r
  | settings s => exact s.handleResponse_quiet r
  | test s => exact s.handleResponse_quiet r
  | diff s => exact s.handleResponse_quiet r
  | execution s => exact s.handleResponse_quiet r
  | gallery s => exact Effects.none_quiet

/-- A response makes no screen ask and leave at once, nor send what has to be confirmed. -/
theorem handleResponse_orderly (screen : Screen) (r : Response) :
    (screen.handleResponse r).2.Orderly := by
  by_cases h : screen.redirect? = some .login
  · cases screen with
    | login s => exact s.handleResponse_orderly r
    | _ => cases h
  · exact (handleResponse_quiet h r).toOrderly

/-- A response makes no screen raise a question. -/
theorem handleResponse_confirm (screen : Screen) (r : Response) :
    (screen.handleResponse r).2.confirm = none := by
  by_cases h : screen.redirect? = some .login
  · cases screen with
    | login s => exact s.handleResponse_confirm r
    | _ => cases h
  · exact (handleResponse_quiet h r).unquestioning

/-- No request on entry has to be confirmed. -/
theorem ofRoute_harmless (ctx : ScreenContext) (route : Route) :
    ∀ r ∈ (ofRoute ctx route).2, r.needsConfirmation = false := by
  cases route <;>
    simp [ofRoute, entered, FunctionsScreen.enter, FunctionsScreen.pageRequest, CodeScreen.enter,
      VersionsScreen.enter, VersionsScreen.pageRequest, ExecutionsScreen.enter,
      ExecutionsScreen.pageRequest, SettingsScreen.enter, TestScreen.enter, DiffScreen.enter,
      ExecutionScreen.enter, ExecutionScreen.pageRequest, Request.needsConfirmation]

end Screen

end FunctionConsole
