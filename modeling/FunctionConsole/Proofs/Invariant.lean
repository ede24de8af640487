import FunctionConsole.Proofs.Tickets

/-!
# What screens keep

Much of what is true of the console at any time is true of the screen that is shown, because a fresh
screen has it and neither keys nor responses take it away. `Screen.Invariant` says what has to be
shown of such a property, all of it about screens alone. That the update puts no other screen in
place is shown here once, for every message, and `Screen.Invariant.after` is what it gives for runs.
-/

namespace FunctionConsole

open Console (Input start)

/-- A property that every fresh screen has, and that no key and no response takes away. -/
structure Screen.Invariant (P : Screen → Prop) : Prop where
  fresh : ∀ ctx route, P (Screen.ofRoute ctx route).1
  login : ∀ redirect, P (.login { redirect })
  submitted : ∀ apiKey redirect, P (.login (LoginScreen.submitted apiKey redirect).1)
  key : ∀ screen key, P screen → ∀ p ∈ screen.handleKey key, P p.1
  response : ∀ screen response, P screen → P (screen.handleResponse response).1

namespace Screen.Invariant

section

variable {P : Screen → Prop} (h : Screen.Invariant P) {c : Console} {now : Moment}
include h

theorem goTo (c : Console) (route : Route) : P (c.goTo route).1.screen :=
  h.fresh c.screenContext route

theorem applyEffects {screen : Screen} (hscreen : P screen) (c : Console) (e : Effects) :
    P ({ c with screen }.applyEffects now e).1.screen := by
  unfold Console.applyEffects
  dsimp only
  split
  · exact hscreen
  · exact h.goTo _ _

theorem switchTab (hc : P c.screen) (index : Nat) : P (c.switchTab index).1.screen := by
  unfold Console.switchTab
  split
  · split
    · exact hc
    · exact h.goTo c _
  · exact hc

theorem globalKey (hc : P c.screen) (key : Key) : P (c.globalKey key).1.screen := by
  unfold Console.globalKey
  split
  case h_4 => split <;> exact hc
  case h_5 =>
      split
      · exact h.switchTab hc _
      · exact hc
  all_goals exact hc

theorem screenKey (hc : P c.screen) (key : Key) : P (c.screenKey now key).1.screen := by
  unfold Console.screenKey
  split
  · next hkey => exact h.applyEffects (h.key c.screen key hc _ hkey) c _
  · exact h.globalKey hc key

theorem handleKey (hc : P c.screen) (key : Key) : P (c.handleKey now key).1.screen := by
  have hpalette : P (c.paletteKey key).1.screen := by
    unfold Console.paletteKey
    split <;> exact hc
  have hopen : P (c.openKey now key).1.screen := by
    unfold Console.openKey
    split
    · exact hc
    · split
      · split
        · exact h.switchTab hc _
        · exact h.screenKey hc _
      · exact h.screenKey hc _
  unfold Console.handleKey
  split
  · exact hc
  · split
    · exact hc
    · split
      · exact hpalette
      · exact hopen

theorem handleResponse (hc : P c.screen) (ticket : Ticket) (response : Response) :
    P (c.handleResponse now ticket response).1.screen := by
  have hview : P (c.viewResponse now response).1.screen := by
    unfold Console.viewResponse
    split
    · exact hc
    · split
      · exact h.goTo _ .login
      · exact h.applyEffects (h.response c.screen response hc) c _
  have hpalette : P (c.paletteResponse now response).1.screen := by
    unfold Console.paletteResponse
    split
    · exact hc
    · split
      · exact h.goTo _ .login
      · exact hc
    · exact hc
  unfold Console.handleResponse
  split <;> split <;> assumption

/-- Every update keeps the property of the screen, whatever the message. -/
theorem update (hc : P c.screen) (now : Moment) (m : Message) : P (c.update now m).1.screen := by
  cases m with
  | key k => exact h.handleKey hc k
  | startup route apiKey =>
      show P (c.startup route apiKey).1.screen
      unfold Console.startup
      split
      · exact h.submitted _ _
      · split
        · exact h.goTo c route
        · exact h.login _
  | navigate route => exact h.goTo _ route
  | back =>
      unfold Console.update
      dsimp only
      split
      · exact h.goTo c _
      · exact hc
  | reload => exact h.goTo c c.route
  | logout => exact h.goTo _ .login
  | togglePalette =>
      show P c.togglePalette.1.screen
      unfold Console.togglePalette
      split
      · exact hc
      · split <;> exact hc
  | confirmAccepted =>
      unfold Console.update
      dsimp only
      split <;> exact hc
  | api ticket response => exact h.handleResponse hc ticket response
  | tick | quit | confirmDeclined | mutate _ => exact hc

/-- After any messages whatever the screen that is shown has the property. -/
theorem after (settings : Settings) (inputs : List Input) :
    P ((start settings).after inputs).screen := by
  have hafter (c : Console) (hc : P c.screen) : P (c.after inputs).screen := by
    induction inputs generalizing c with
    | nil => exact hc
    | cons i rest ih => exact ih _ (h.update hc i.now i.message)
  exact hafter (start settings) (h.login _)

end

end Screen.Invariant

end FunctionConsole
