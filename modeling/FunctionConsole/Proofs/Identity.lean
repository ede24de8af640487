import FunctionConsole.Proofs.Subject
import FunctionConsole.Proofs.Tickets

/-!
# What a screen is of

The console keeps its address and its screen side by side, and nothing in their types makes one the
screen of the other. This file shows that it is nevertheless.

The identity of a screen is what is settled when it opens: its kind, and the ids, versions or piece
that its address names. Keys and responses work on a screen but never change its identity
(`Screen.handleKey_identity`, `Screen.handleResponse_identity`), and whoever writes the address
writes a fresh screen with the identity of that address in the same step (`agrees_enter`,
`agrees_login`). `Agrees` is therefore kept by every update, whatever the message, and
`screen_is_of_route` is what it comes to for runs.
-/

namespace FunctionConsole

-- ==================================================== identities

/-- What is settled about a screen when it opens. -/
inductive Identity where
  | login
  | functions
  | create
  | code (id : String)
  | versions (id : String)
  | executions (id : String)
  | settings (id : String)
  | test (id : String)
  | diff (id : String) (old new : UInt32)
  | execution (id : String)
  | gallery (component : Option GalleryPiece)
  deriving DecidableEq, Repr

/-- What the screen of an address has to be. An address may name a piece that the gallery lacks. -/
def Route.identity : Route → Identity
  | .login => .login
  | .functions => .functions
  | .create => .create
  | .code id => .code id
  | .versions id => .versions id
  | .executions id => .executions id
  | .settings id => .settings id
  | .test id => .test id
  | .diff id old new => .diff id old new
  | .execution id => .execution id
  | .preview slug => .gallery (slug.bind GalleryPiece.ofSlug?)

/-- What a screen is. -/
def Screen.identity : Screen → Identity
  | .login _ => .login
  | .functions _ => .functions
  | .create _ => .create
  | .code s => .code s.id
  | .versions s => .versions s.id
  | .executions s => .executions s.id
  | .settings s => .settings s.id
  | .test s => .test s.id
  | .diff s => .diff s.id s.old s.new
  | .execution s => .execution s.id
  | .gallery s => .gallery s.component

-- ==================================================== keys and responses

/-- A key moves the shown lines and compares the same versions of the same function. -/
theorem DiffScreen.handleKey_identity (s : DiffScreen) (key : Key) :
    ∀ p ∈ s.handleKey key, p.1.id = s.id ∧ p.1.old = s.old ∧ p.1.new = s.new := by
  unfold handleKey
  split
  · simp
  · simp
  · intro p hp
    obtain ⟨scroll, -, rfl⟩ := Option.map_eq_some_iff.mp hp
    exact ⟨rfl, rfl, rfl⟩

theorem DiffScreen.handleResponse_identity (s : DiffScreen) (r : Response) :
    (s.handleResponse r).1.id = s.id ∧ (s.handleResponse r).1.old = s.old ∧
      (s.handleResponse r).1.new = s.new := by
  unfold handleResponse
  split <;> exact ⟨rfl, rfl, rfl⟩

/-- A key turns pages of the logs or moves in them, of the same execution. -/
theorem ExecutionScreen.handleKey_identity (s : ExecutionScreen) (key : Key) :
    ∀ p ∈ s.handleKey key, p.1.id = s.id := by
  unfold handleKey
  split
  · simp
  · simp [turnTo]
  · intro p hp
    obtain ⟨scroll, -, rfl⟩ := Option.map_eq_some_iff.mp hp
    rfl

theorem ExecutionScreen.handleResponse_identity (s : ExecutionScreen) (r : Response) :
    (s.handleResponse r).1.id = s.id := by
  unfold handleResponse
  split
  -- the logs of another page are dropped
  case h_4 =>
      split
      · rfl
      · split <;> rfl
  all_goals rfl

/-- The gallery goes to another piece by its address, never by changing the screen. -/
theorem GalleryScreen.handleKey_identity (s : GalleryScreen) (key : Key) :
    ∀ p ∈ s.handleKey key, p.1 = s := by
  unfold handleKey
  split <;> simp

namespace Screen

/-- A key never makes a screen another one. -/
theorem handleKey_identity {screen screen' : Screen} {key : Key} {e : Effects}
    (h : screen.handleKey key = some (screen', e)) : screen'.identity = screen.identity := by
  cases screen <;> obtain ⟨p, hp, heq⟩ := Option.map_eq_some_iff.mp h <;> cases heq
  case login | functions | create => rfl
  case code s => exact congrArg Identity.code (s.handleKey_about key p hp).1
  case versions s => exact congrArg Identity.versions (s.handleKey_about key p hp).1
  case executions s => exact congrArg Identity.executions (s.handleKey_about key p hp).1
  case settings s => exact congrArg Identity.settings (s.handleKey_about key p hp).1
  case test s => exact congrArg Identity.test (s.handleKey_about key p hp).1
  case diff s =>
      obtain ⟨hid, hold, hnew⟩ := s.handleKey_identity key p hp
      show Identity.diff p.1.id p.1.old p.1.new = .diff s.id s.old s.new
      rw [hid, hold, hnew]
  case execution s => exact congrArg Identity.execution (s.handleKey_identity key p hp)
  case gallery s =>
      exact congrArg (fun t : GalleryScreen => Identity.gallery t.component)
        (s.handleKey_identity key p hp)

/-- A response never makes a screen another one. -/
theorem handleResponse_identity (screen : Screen) (r : Response) :
    (screen.handleResponse r).1.identity = screen.identity := by
  -- most screens are settled by the function that they are about
  have hsubject := (screen.handleResponse_heeds r).subject
  cases screen with
  | login s | functions s | create s | gallery s => rfl
  | code s => exact congrArg Identity.code (Option.some.inj hsubject)
  | versions s => exact congrArg Identity.versions (Option.some.inj hsubject)
  | executions s => exact congrArg Identity.executions (Option.some.inj hsubject)
  | settings s => exact congrArg Identity.settings (Option.some.inj hsubject)
  | test s => exact congrArg Identity.test (Option.some.inj hsubject)
  | diff s =>
      obtain ⟨hid, hold, hnew⟩ := s.handleResponse_identity r
      show Identity.diff (s.handleResponse r).1.id (s.handleResponse r).1.old
        (s.handleResponse r).1.new = .diff s.id s.old s.new
      rw [hid, hold, hnew]
  | execution s => exact congrArg Identity.execution (s.handleResponse_identity r)

theorem ofRoute_identity (ctx : ScreenContext) (route : Route) :
    (ofRoute ctx route).1.identity = route.identity := by
  cases route <;> rfl

end Screen

namespace Console

-- ==================================================== screen and address agree

/-- The screen is the one of the address. -/
def Agrees (c : Console) : Prop := c.screen.identity = c.route.identity

/-- Opening an address writes both, and does not care what was there before. -/
theorem agrees_enter (c : Console) (route : Route) : (c.enter route).1.Agrees :=
  Screen.ofRoute_identity c.screenContext route

/-- So do the two ways to the login screen that keep where a login leads. -/
theorem agrees_login (c : Console) (s : LoginScreen) (generation : Nat) (confirm : Option Dialog) :
    Agrees { c with generation, confirm, screen := .login s, route := .login } :=
  rfl

theorem agrees_startup (c : Console) (route : Route) (apiKey : Option String) :
    (c.startup route apiKey).1.Agrees := by
  unfold startup
  split
  · exact agrees_login c _ _ _
  · split
    · exact agrees_enter c route
    · exact agrees_login c _ _ _

section

variable {c : Console} {now : Moment}

/-- A screen that works on and stays the same one keeps the agreement, whatever it asks for. -/
theorem Agrees.applyEffects {screen : Screen} (h : c.Agrees)
    (hscreen : screen.identity = c.screen.identity) (e : Effects) :
    ({ c with screen }.applyEffects now e).1.Agrees := by
  unfold Console.applyEffects
  dsimp only
  split
  · exact hscreen.trans h
  · exact agrees_enter _ _

theorem Agrees.switchTab (h : c.Agrees) (index : Nat) : (c.switchTab index).1.Agrees := by
  unfold Console.switchTab
  split
  · split
    · exact h
    · exact agrees_enter c _
  · exact h

theorem Agrees.globalKey (h : c.Agrees) (key : Key) : (c.globalKey key).1.Agrees := by
  unfold Console.globalKey
  split
  case h_4 => split <;> exact h
  case h_5 =>
      split
      · exact h.switchTab _
      · exact h
  all_goals exact h

theorem Agrees.screenKey (h : c.Agrees) (key : Key) : (c.screenKey now key).1.Agrees := by
  unfold Console.screenKey
  split
  · next hscreen => exact h.applyEffects (Screen.handleKey_identity hscreen) _
  · exact h.globalKey key

theorem Agrees.paletteKey (h : c.Agrees) (key : Key) : (c.paletteKey key).1.Agrees := by
  unfold Console.paletteKey
  split <;> exact h

theorem Agrees.handleKey (h : c.Agrees) (key : Key) : (c.handleKey now key).1.Agrees := by
  have hopen : (c.openKey now key).1.Agrees := by
    unfold openKey
    split
    · exact h
    · split
      · split
        · exact h.switchTab _
        · exact h.screenKey _
      · exact h.screenKey _
  unfold Console.handleKey
  split
  · exact h
  · split
    · exact h
    · split
      · exact h.paletteKey key
      · exact hopen

theorem Agrees.viewResponse (h : c.Agrees) (response : Response) :
    (c.viewResponse now response).1.Agrees := by
  unfold Console.viewResponse
  split
  · exact h
  · split
    · exact agrees_enter _ .login
    · exact h.applyEffects (c.screen.handleResponse_identity response) _

theorem Agrees.paletteResponse (h : c.Agrees) (response : Response) :
    (c.paletteResponse now response).1.Agrees := by
  unfold Console.paletteResponse
  split
  · exact h
  · split
    · exact agrees_enter _ .login
    · exact h
  · exact h

theorem Agrees.handleResponse (h : c.Agrees) (ticket : Ticket) (response : Response) :
    (c.handleResponse now ticket response).1.Agrees := by
  unfold Console.handleResponse
  split
  · split
    · exact h.paletteResponse response
    · exact h
  · split
    · exact h.viewResponse response
    · exact h

theorem Agrees.togglePalette (h : c.Agrees) : c.togglePalette.1.Agrees := by
  unfold Console.togglePalette
  split
  · exact h
  · split <;> exact h

/-- Every update keeps screen and address together, whatever the message. -/
theorem Agrees.update (h : c.Agrees) (now : Moment) (m : Message) : (c.update now m).1.Agrees := by
  cases m with
  | key k => exact h.handleKey k
  | startup route apiKey => exact agrees_startup c route apiKey
  | navigate route => exact agrees_enter _ route
  | back =>
      unfold Console.update
      dsimp only
      split
      · exact agrees_enter c _
      · exact h
  | reload => exact agrees_enter c c.route
  | logout => exact agrees_enter _ .login
  | togglePalette => exact h.togglePalette
  | confirmAccepted =>
      unfold Console.update
      dsimp only
      split <;> exact h
  | api ticket response => exact h.handleResponse ticket response
  | tick | quit | confirmDeclined | mutate _ => exact h

theorem Agrees.after (h : c.Agrees) (inputs : List Input) : (c.after inputs).Agrees := by
  induction inputs generalizing c with
  | nil => exact h
  | cons i rest ih => exact ih (h.update i.now i.message)

end

/-- Address and screen never disagree. After any messages whatever, from the start on and each with
one update, the screen that is shown is of the kind that opens at the address, and names the same
ids, versions or piece. -/
theorem screen_is_of_route (settings : Settings) (inputs : List Input) :
    let c := (start settings).after inputs
    c.screen.identity = c.route.identity ∧
      c.screen.identity = (Screen.ofRoute c.screenContext c.route).1.identity := by
  intro c
  have hstart : (start settings).Agrees := rfl
  have hagrees : c.Agrees := hstart.after inputs
  exact ⟨hagrees, hagrees.trans (Screen.ofRoute_identity c.screenContext c.route).symm⟩

end Console

end FunctionConsole
