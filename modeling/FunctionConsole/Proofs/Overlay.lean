import FunctionConsole.Proofs.Run

/-!
# Overlays of the login screen

On the login screen there is no session, and neither a question nor the palette has any business in
front of it. No question ever is; the palette is in one case only. Every way onto the login screen
closes it, except for one: a request of the screen that is refused, because the session is gone,
opens the login screen underneath the palette. `Exposed` is that case, and
`login_screen_overlays` says that it is the only one and that it lasts until the palette is closed.
-/

namespace FunctionConsole

open Console (Input isExpiry start)

-- ==================================================== address and screen

namespace Console

/-- The login screen is shown exactly at its address, and without a question. -/
structure Aligned (c : Console) : Prop where
  login : c.route = .login ↔ c.screen.redirect?.isSome = true
  unasked : c.route = .login → c.confirm = none

theorem enter_aligned (c : Console) (route : Route) : (c.enter route).1.Aligned := by
  refine ⟨?_, fun _ => rfl⟩
  show route = .login ↔ (Screen.ofRoute c.screenContext route).1.redirect?.isSome = true
  rw [Screen.ofRoute_redirect?]
  split <;> simp_all

theorem startup_aligned {c : Console} (h : c.confirm = none) (route : Route)
    (apiKey : Option String) : (c.startup route apiKey).1.Aligned := by
  unfold startup
  split
  · exact ⟨⟨fun _ => rfl, fun _ => rfl⟩, fun _ => h⟩
  · split
    · exact enter_aligned c route
    · exact ⟨⟨fun _ => rfl, fun _ => rfl⟩, fun _ => rfl⟩

/-- Starting up opens no palette. -/
theorem startup_palette (c : Console) (route : Route) (apiKey : Option String) :
    (c.startup route apiKey).1.palette = c.palette := by
  unfold startup
  split
  · rfl
  · split <;> rfl

section

variable {c c' : Console} {now : Moment} {m : Message} {calls : List Call}

/-- Whatever a turn does, address and screen stay in line. -/
theorem Outcome.aligned (h : Outcome c now m c' calls) (hc : c.Aligned) : c'.Aligned := by
  cases h with
  | idle | searched _ _ | opened _ _ => exact ⟨hc.login, hc.unasked⟩
  | accepted _ _ | declined _ _ => exact ⟨hc.login, fun _ => rfl⟩
  | worked _ _ hscreen _ =>
      refine ⟨by simpa [Screen.handleKey_redirect? hscreen] using hc.login, fun hlogin => ?_⟩
      exact Screen.handleKey_confirm_of_login (hc.login.mp hlogin) hscreen
  | received _ _ _ => exact ⟨by simpa [Screen.handleResponse_redirect?] using hc.login, hc.unasked⟩
  | loggedOut _ _ => exact enter_aligned _ .login
  | _ => exact enter_aligned _ _

/-- The palette is open on the login screen only if it was so already, or if a request of the screen
behind the open palette has been refused. -/
theorem Outcome.palette_cases (h : Outcome c now m c' calls) (hc : c.Aligned)
    (hroute : c'.route = .login) (hopen : c'.palette.isOpen = true) :
    c.palette.isOpen = true ∧ (c.route = .login ∨ ∃ response, m = .api c.ticket response ∧
      (∀ result, response ≠ .loggedOut result) ∧ isExpiry response = true) := by
  have hcovered (huncovered : c.Uncovered) (h : c'.palette = c.palette) : False := by
    rw [h, huncovered.2] at hopen
    cases hopen
  cases h with
  | idle | accepted _ _ | declined _ _ | received _ _ _ => exact ⟨hopen, .inl hroute⟩
  | searched _ hbefore _ => exact ⟨hbefore, .inl hroute⟩
  | opened _ hbefore => exact absurd hroute hbefore
  | chosen _ _ _ | loggedOut _ _ | paletteExpired _ _ _ _ => cases hopen
  | back huncovered _ | reloaded huncovered _ | tabbed _ huncovered _ | worked _ huncovered _ _
  | moved _ huncovered _ _ =>
      exact (hcovered huncovered rfl).elim
  | expired _ hkind hexpiry => exact ⟨hopen, .inr ⟨_, rfl, hkind, hexpiry⟩⟩
  | @finished response route _ _ hleave =>
      refine ⟨hopen, .inl (hc.login.mpr ?_)⟩
      cases hredirect : c.screen.redirect? with
      | some _ => rfl
      | none =>
          have hnowhere : c.screen.redirect? ≠ some .login := by simp [hredirect]
          have hquiet := Screen.handleResponse_quiet hnowhere response
          exact absurd (hleave.trans (congrArg some hroute)) hquiet.unlocking

end

end Console

-- ==================================================== runs of turns

/-- A request of the screen that is shown is refused because the session is gone. -/
def Turn.Expires (t : Turn) : Prop :=
  ∃ response, t.input.message = .api t.before.ticket response ∧
    (∀ result, response ≠ .loggedOut result) ∧ isExpiry response = true

/-- In one of some turns the session was found to be gone behind the open palette, which has been
open ever since. -/
def Exposed (turns : List Turn) : Prop :=
  ∃ past t future, turns = past ++ t :: future ∧ t.Expires ∧ t.before.palette.isOpen = true ∧
    ∀ u ∈ future, u.after.palette.isOpen = true

/-- Earlier turns do not matter. -/
theorem Exposed.cons {turns : List Turn} (h : Exposed turns) (t : Turn) : Exposed (t :: turns) := by
  obtain ⟨past, u, future, rfl, hexpires, hopen, hfuture⟩ := h
  exact ⟨t :: past, u, future, rfl, hexpires, hopen, hfuture⟩

/-- The palette is left as it is when a request of the screen finds the session gone. -/
theorem Turn.Expires.palette {t : Turn} (h : t.Expires) : t.after.palette = t.before.palette := by
  obtain ⟨response, hmessage, hkind, hexpiry⟩ := h
  have hexpired : t.before.viewResponse t.input.now response =
      t.before.sessionExpired t.input.now := by
    -- the response is not the word that a session has ended, by `hkind`
    simp only [Console.viewResponse, hexpiry, if_true]
  rw [after, hmessage, Console.process_api, Console.handleResponse_current, hexpired]
  rfl

namespace Console

/-- Address and screen are in line after every run. -/
theorem aligned_through {c : Console} {inputs : List Input} (hc : c.Aligned)
    (hexternal : ∀ i ∈ inputs, i.message.IsExternal) : (c.through inputs).Aligned := by
  induction inputs generalizing c with
  | nil => exact hc
  | cons i rest ih =>
      have hi : (Turn.mk c i).input.message.IsExternal := hexternal i (by simp)
      exact ih ((Turn.outcome hi).aligned hc) fun j hj => hexternal j (by simp [hj])

/-- A palette that every turn leaves open is open in the end. -/
theorem open_through {c : Console} {inputs : List Input} (hopen : c.palette.isOpen = true)
    (h : ∀ t ∈ c.turns inputs, t.after.palette.isOpen = true) :
    (c.through inputs).palette.isOpen = true := by
  induction inputs generalizing c with
  | nil => exact hopen
  | cons i rest ih =>
      exact ih (h ⟨c, i⟩ (by simp [turns])) fun t ht => h t (by simp [turns, ht])

/-- Once exposed the palette is open in the end. -/
theorem open_of_exposed {c : Console} {inputs : List Input} (h : Exposed (c.turns inputs)) :
    (c.through inputs).palette.isOpen = true := by
  obtain ⟨past, t, future, hcut, hexpires, hopen, hfuture⟩ := h
  obtain ⟨first, rest, -, -, -, rfl, hlast⟩ := turns_cut hcut
  rw [← hlast]
  exact open_through (hexpires.palette ▸ hopen) hfuture

/-- If the palette is open on the login screen, then all has been so from the first, or the palette
has been exposed since. -/
theorem exposed_of_open {c : Console} {inputs : List Input} (hc : c.Aligned)
    (hexternal : ∀ i ∈ inputs, i.message.IsExternal) (hroute : (c.through inputs).route = .login)
    (hopen : (c.through inputs).palette.isOpen = true) :
    (c.route = .login ∧ c.palette.isOpen = true ∧
      ∀ t ∈ c.turns inputs, t.after.palette.isOpen = true) ∨ Exposed (c.turns inputs) := by
  induction inputs generalizing c with
  | nil => exact .inl ⟨hroute, hopen, by simp [turns]⟩
  | cons i rest ih =>
      have hi : (Turn.mk c i).input.message.IsExternal := hexternal i (by simp)
      have hafter := (Turn.outcome hi).aligned hc
      rcases ih hafter (fun j hj => hexternal j (by simp [hj])) hroute hopen with
        ⟨hlogin, hstill, hall⟩ | hexposed
      · obtain ⟨hbefore, hlogin' | hexpires⟩ := (Turn.outcome hi).palette_cases hc hlogin hstill
        · refine .inl ⟨hlogin', hbefore, fun t ht => ?_⟩
          rcases List.mem_cons.mp ht with rfl | ht
          · exact hstill
          · exact hall t ht
        · exact .inr ⟨[], ⟨c, i⟩, _, rfl, hexpires, hbefore, hall⟩
      · exact .inr (hexposed.cons _)

/-- What is in front of the login screen. In every run, whenever the login screen is shown there is
no question, and the palette is open exactly if it was already open when a request of the screen
was refused because the session was gone, and has been open ever since. -/
theorem login_screen_overlays (settings : Settings) (now : Moment) (route : Route)
    (apiKey : Option String) {inputs : List Input}
    (hexternal : ∀ i ∈ inputs, i.message.IsExternal) :
    let turns := (start settings).turns (⟨now, .startup route apiKey⟩ :: inputs)
    let last := (start settings).through (⟨now, .startup route apiKey⟩ :: inputs)
    last.route = .login → last.confirm = none ∧ (last.palette.isOpen = true ↔ Exposed turns) := by
  intro turns last hroute
  let first : Turn := ⟨start settings, now, .startup route apiKey⟩
  have hafter : first.after = ((start settings).startup route apiKey).1 := Turn.after_startup rfl
  have haligned : first.after.Aligned := hafter ▸ startup_aligned rfl route apiKey
  refine ⟨(aligned_through haligned hexternal).unasked hroute, fun hopen => ?_, open_of_exposed⟩
  rcases exposed_of_open haligned hexternal hroute hopen with ⟨-, hstarted, -⟩ | hexposed
  · rw [hafter, startup_palette] at hstarted
    cases hstarted
  · exact hexposed.cons first

/-- The list of functions is refused while the palette is open: the login screen is shown, and the
palette is still in front of it. Every response answers a call. -/
theorem palette_survives_expiry :
    let refused : ApiError := .status 401 "unauthorized"
    let inputs : List Input :=
      [⟨1, .api ⟨.view, 1⟩ (.loggedIn (.ok ()))⟩, ⟨2, .key (.ctrl 'k')⟩,
        ⟨3, .api ⟨.view, 2⟩ (.functions ⟨20, 0⟩ (.error refused))⟩]
    let run : List Input := ⟨0, .startup .functions (some "secret")⟩ :: inputs
    let last := (start {}).through run
    (∀ i ∈ inputs, i.message.IsExternal) ∧ Truthful [] ((start {}).turns run) ∧
      ¬ (last.route = .login → last.palette.isOpen = false ∧ last.confirm = none) := by
  intro refused inputs run last
  refine ⟨by simp [inputs, Message.IsExternal], ⟨?_, ?_, ?_, ?_, trivial⟩, by decide +kernel⟩
  · intro ticket response h
    cases h
  · intro ticket response h
    cases h
    exact ⟨⟨⟨.view, 1⟩, .login "secret"⟩, by decide +kernel, rfl,
      { refusingServer refused with login := fun _ => .ok () }, rfl⟩
  · intro ticket response h
    cases h
  · intro ticket response h
    cases h
    exact ⟨⟨⟨.view, 2⟩, .listFunctions 20 0⟩, by decide +kernel, rfl, refusingServer refused, rfl⟩

/-- Refused while the palette is open, and refused while it is shut: only the first exposes it. -/
theorem exposed_only_behind_palette :
    let refusal : Response := .functions ⟨20, 0⟩ (.error (.status 401 "unauthorized"))
    let begun : List Input :=
      [⟨0, .startup .functions (some "secret")⟩, ⟨1, .api ⟨.view, 1⟩ (.loggedIn (.ok ()))⟩]
    Exposed ((start {}).turns (begun ++ [⟨2, .key (.ctrl 'k')⟩, ⟨3, .api ⟨.view, 2⟩ refusal⟩])) ∧
      ¬ Exposed ((start {}).turns (begun ++ [⟨2, .tick⟩, ⟨3, .api ⟨.view, 2⟩ refusal⟩])) := by
  intro refusal begun
  have hbehind := login_screen_overlays {} 0 .functions (some "secret")
    (show ∀ i ∈ ([⟨1, .api ⟨.view, 1⟩ (.loggedIn (.ok ()))⟩, ⟨2, .key (.ctrl 'k')⟩,
      ⟨3, .api ⟨.view, 2⟩ refusal⟩] : List Input), i.message.IsExternal by
        simp [Message.IsExternal])
  have hshut := login_screen_overlays {} 0 .functions (some "secret")
    (show ∀ i ∈ ([⟨1, .api ⟨.view, 1⟩ (.loggedIn (.ok ()))⟩, ⟨2, .tick⟩,
      ⟨3, .api ⟨.view, 2⟩ refusal⟩] : List Input), i.message.IsExternal by
        simp [Message.IsExternal])
  exact ⟨(hbehind (by decide +kernel)).2.mp (by decide +kernel),
    mt (hshut (by decide +kernel)).2.mpr (by decide +kernel)⟩

end Console

end FunctionConsole
