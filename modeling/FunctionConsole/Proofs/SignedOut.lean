import FunctionConsole.Proofs.Run

/-!
# Signed out

Without a session nothing is asked of the server but to log in. `SignedOut` are the moments from
which this is claimed, the start without a key and the end of a session. From there on the console
is `Waiting`: on the login screen, with nothing in front of it and with one ticket for everything it
asks. One turn keeps it so (`Outcome.waiting`) unless the login is accepted, for which the responses
have to be true ones: all that has gone out under that ticket is logins and the word that a session
has ended, and responses to those open no screen.
-/

namespace FunctionConsole

open Console (Input start)

-- ==================================================== the login screen

namespace LoginScreen

/-- A key to the login screen leads nowhere. It submits what has been typed if that is not blank and
nothing is on its way, or it asks the server for nothing. -/
theorem handleKey_cases (s : LoginScreen) (key : Key) : ∀ p ∈ s.handleKey key,
    p.2.navigate = none ∧ (p.2.requests = [] ∧ p.1.submitting = s.submitting ∨
      p.2.requests = [.login (Text.trim s.apiKey.value)] ∧ Text.trim s.apiKey.value ≠ "" ∧
        s.submitting = false ∧ p.1.submitting = true) := by
  unfold handleKey
  split
  case h_1 | h_2 =>
      unfold submit
      split
      · next hsubmit =>
          simp only [canSubmit, Bool.and_eq_true, Bool.not_eq_true'] at hsubmit
          simp [Effects.request, hsubmit.1, Text.trim_ne_empty hsubmit.2]
      · simp [Effects.none]
  case h_3 =>
      split
      split <;> simp [Effects.none]

end LoginScreen

/-- How many logins the screen waits for. -/
def Screen.pending : Screen → Nat
  | .login s => s.submitting.toNat
  | _ => 0

/-- A screen that leads somewhere after a login is the login screen. -/
theorem Screen.login_of_redirect? {screen : Screen} {redirect : Route}
    (h : screen.redirect? = some redirect) : ∃ s, screen = .login s ∧ s.redirect = redirect := by
  cases screen with
  | login s => exact ⟨s, rfl, Option.some.inj h⟩
  | _ => cases h

/-- A key to the login screen is handled by the login screen. -/
theorem Screen.handleKey_login {s : LoginScreen} {key : Key} {screen : Screen} {e : Effects}
    (h : (Screen.login s).handleKey key = some (screen, e)) :
    ∃ s', s.handleKey key = some (s', e) ∧ screen = .login s' := by
  obtain ⟨p, hp, heq⟩ := Option.map_eq_some_iff.mp h
  cases heq
  exact ⟨p.1, hp, rfl⟩

-- ==================================================== one turn

/-- Whether a message brings the result of a login under a ticket. -/
def Message.answersLogin (ticket : Ticket) : Message → Bool
  | .api t (.loggedIn _) => t == ticket
  | _ => false

namespace Console

/-- The console waits for a login: on the login screen, with nothing in front of it. -/
structure Waiting (redirect : Route) (ticket : Ticket) (c : Console) : Prop where
  current : c.ticket = ticket
  route : c.route = .login
  screen : c.screen.redirect? = some redirect
  unasked : c.confirm = none
  closed : c.palette.isOpen = false

section

variable {c c' : Console} {now : Moment} {m : Message} {calls : List Call} {redirect : Route}
variable {ticket : Ticket}

/-- What goes out while the console waits: nothing, or a login with what has been typed, the latter
only when no login is on its way. Only an answer, of which `answered` have come, ends that. -/
def AsksToLogin (ticket : Ticket) (answered : Nat) (c c' : Console) (calls : List Call) : Prop :=
  calls = [] ∧ c.screen.pending ≤ answered + c'.screen.pending ∨
    ∃ s, c.screen = .login s ∧ Text.trim s.apiKey.value ≠ "" ∧
      calls = [⟨ticket, .login (Text.trim s.apiKey.value)⟩] ∧
      c.screen.pending = 0 ∧ c'.screen.pending = 1

theorem AsksToLogin.typed {answered : Nat} (h : AsksToLogin ticket answered c c' calls) :
    ∀ call ∈ calls, ∃ s, c.screen = .login s ∧ Text.trim s.apiKey.value ≠ "" ∧
      call = ⟨ticket, .login (Text.trim s.apiKey.value)⟩ := by
  intro call hcall
  rcases h with ⟨hnone, -⟩ | ⟨s, hs, htyped, hone, -, -⟩
  · rw [hnone] at hcall
    cases hcall
  · exact ⟨s, hs, htyped, List.mem_singleton.mp (hone ▸ hcall)⟩

theorem AsksToLogin.count {answered : Nat} (h : AsksToLogin ticket answered c c' calls) :
    calls.length + c.screen.pending ≤ answered + c'.screen.pending := by
  rcases h with ⟨hnone, hpending⟩ | ⟨s, -, -, hone, hbefore, hafter⟩
  · rw [hnone, List.length_nil]
    omega
  · rw [hone, hbefore, hafter, List.length_singleton]
    omega

/-- No tab can be switched to while the console waits. -/
theorem Waiting.tabFunctionId (hc : c.Waiting redirect ticket) : c.tabFunctionId = none := by
  obtain ⟨s, hs, -⟩ := Screen.login_of_redirect? hc.screen
  rw [Console.tabFunctionId, hc.route, hs]
  rfl

/-- No key that the login screen leaves alone is a character. -/
theorem Waiting.handleKey_char (hc : c.Waiting redirect ticket) (ch : Char) :
    c.screen.handleKey (.char ch) ≠ none := by
  obtain ⟨s, hs, -⟩ := Screen.login_of_redirect? hc.screen
  rw [hs]
  intro h
  cases h

/-- A key to the screen keeps the console waiting. -/
theorem Waiting.worked (hc : c.Waiting redirect ticket) {key : Key} {screen : Screen} {e : Effects}
    (hscreen : c.screen.handleKey key = some (screen, e)) (toasts : Toasts) (answered : Nat) :
    e.navigate = none ∧
      ({ c with screen, toasts, confirm := e.confirm } : Console).Waiting redirect ticket ∧
      AsksToLogin ticket answered c { c with screen, toasts, confirm := e.confirm }
        (c.calls e.requests) := by
  obtain ⟨s, hs, -⟩ := Screen.login_of_redirect? hc.screen
  have hredirect := Screen.handleKey_redirect? hscreen
  obtain ⟨s', hkey, rfl⟩ := Screen.handleKey_login (hs ▸ hscreen)
  obtain ⟨hstays, hrequests⟩ := s.handleKey_cases key _ hkey
  refine ⟨hstays, ⟨hc.current, hc.route, hredirect.trans hc.screen,
    s.handleKey_confirm key _ hkey, hc.closed⟩, ?_⟩
  rcases hrequests with ⟨hnone, hstill⟩ | ⟨hlogin, htyped, hbefore, hafter⟩
  · refine .inl ⟨by rw [hnone]; rfl, ?_⟩
    rw [hs]
    show s.submitting.toNat ≤ answered + s'.submitting.toNat
    rw [hstill]
    exact Nat.le_add_left _ _
  · refine .inr ⟨s, hs, htyped, by rw [hlogin, ← hc.current]; rfl, ?_, ?_⟩
    · rw [hs, Screen.pending, hbefore]
      rfl
    · rw [Screen.pending, hafter]
      rfl

/-- One turn keeps the console waiting, unless the login is accepted. What it asks of the server is
to log in with what has been typed, and only when no login is on its way. -/
theorem Outcome.waiting (h : Outcome c now m c' calls) (hc : c.Waiting redirect ticket)
    (hm : ∀ response, m = .api ticket response →
      (∃ e, response = .loggedIn (.error e)) ∨ ∃ result, response = .loggedOut result) :
    c'.Waiting redirect ticket ∧
      AsksToLogin ticket (m.answersLogin ticket).toNat c c' calls := by
  obtain ⟨s, hs, -⟩ := Screen.login_of_redirect? hc.screen
  cases h with
  | idle =>
      exact ⟨⟨hc.current, hc.route, hc.screen, hc.unasked, hc.closed⟩,
        .inl ⟨rfl, Nat.le_add_left _ _⟩⟩
  | accepted _ hdialog | declined _ hdialog =>
      rw [hc.unasked] at hdialog
      cases hdialog
  | searched _ hopen _ | chosen _ hopen _ | paletteExpired _ _ _ hopen =>
      rw [hc.closed] at hopen
      cases hopen
  | opened _ hroute | loggedOut _ hroute => exact absurd hc.route hroute
  | back _ hback =>
      rw [backRoute, hc.route] at hback
      cases hback
  | reloaded _ hscreen => exact absurd hscreen (hc.handleKey_char 'r')
  | tabbed _ _ htab =>
      rw [hc.tabFunctionId] at htab
      cases htab
  | worked toasts _ hscreen _ => exact (hc.worked hscreen toasts _).2
  | moved toasts _ hscreen hleave =>
      rw [(hc.worked hscreen toasts 0).1] at hleave
      cases hleave
  | @received response toasts _ _ =>
      have hredirect := c.screen.handleResponse_redirect? response
      refine ⟨⟨hc.current, hc.route, hredirect.trans hc.screen, hc.unasked, hc.closed⟩, .inl ?_⟩
      rw [hs]
      rcases hm response (by rw [hc.current]) with ⟨e, rfl⟩ | ⟨result, rfl⟩
      · refine ⟨rfl, ?_⟩
        simp only [Message.answersLogin, hc.current, beq_self_eq_true, Screen.pending]
        exact Nat.le_trans (Bool.toNat_le _) (Nat.le_add_right _ _)
      · exact ⟨rfl, Nat.le_add_left _ _⟩
  | @finished response _ _ _ hleave =>
      rw [hs] at hleave
      rcases hm response (by rw [hc.current]) with ⟨e, rfl⟩ | ⟨result, rfl⟩ <;> cases hleave
  | @expired response _ hkind hexpiry =>
      rcases hm response (by rw [hc.current]) with ⟨e, rfl⟩ | ⟨result, rfl⟩
      · cases hexpiry
      · exact absurd rfl (hkind result)

/-- A login that is accepted opens the screen that it was asked for. -/
theorem Waiting.loggedIn (hc : c.Waiting redirect ticket) :
    let next := (c.process now (.api c.ticket (.loggedIn (.ok ())))).1
    next.route = redirect ∧ next.screen = (Screen.ofRoute c.screenContext redirect).1 := by
  obtain ⟨s, hs, rfl⟩ := Screen.login_of_redirect? hc.screen
  rw [process_api, handleResponse_current]
  simp [viewResponse, isExpiry, hs, Screen.handleResponse, LoginScreen.handleResponse, applyEffects,
    Effects.goTo, enter, screenContext, addToasts]

end

end Console

-- ==================================================== runs of turns

/-- A login under the current ticket is accepted. -/
def Turn.LogsIn (t : Turn) : Prop := t.input.message = .api t.before.ticket (.loggedIn (.ok ()))

/-- Under a ticket nothing has gone out but logins and the word that a session has ended. -/
def LoginsUnder (ticket : Ticket) (sent : List Call) : Prop :=
  ∀ call ∈ sent, call.ticket = ticket → (∃ key, call.request = .login key) ∨ call.request = .logout

/-- A response that answers a login or the end of a session, and that accepts no login. -/
theorem Turn.mild_response {t : Turn} {ticket : Ticket} {sent : List Call}
    (hsent : LoginsUnder ticket sent) (hanswers : t.input.message.Answers sent)
    (hticket : t.before.ticket = ticket) (hrefused : ¬ t.LogsIn) {response : Response}
    (hmessage : t.input.message = .api ticket response) :
    (∃ e, response = .loggedIn (.error e)) ∨ ∃ result, response = .loggedOut result := by
  obtain ⟨call, hcall, hunder, b, hb⟩ := hanswers ticket response hmessage
  rcases hsent call hcall hunder with ⟨key, hrequest⟩ | hrequest
  · rw [hrequest] at hb
    cases hresult : b.login key with
    | error e => exact .inl ⟨e, by rw [← hb, Backend.execute, hresult]; rfl⟩
    | ok _ =>
        have hok : response = .loggedIn (.ok ()) := by rw [← hb, Backend.execute, hresult]; rfl
        exact absurd (hmessage.trans (by rw [hok, hticket])) hrefused
  · rw [hrequest] at hb
    exact .inr ⟨b.logout, hb.symm⟩

namespace Console

/-- Waiting for a login goes on until one is accepted. All that is asked of the server is to log in
with what has been typed, and all but one of these calls have been answered. -/
theorem waiting_through {redirect : Route} {ticket : Ticket} {c : Console} {inputs : List Input}
    {sent : List Call} (hc : c.Waiting redirect ticket)
    (hexternal : ∀ i ∈ inputs, i.message.IsExternal) (hsent : LoginsUnder ticket sent)
    (htruthful : Truthful sent (c.turns inputs)) (hrefused : ∀ t ∈ c.turns inputs, ¬ t.LogsIn) :
    (c.through inputs).Waiting redirect ticket ∧
      (∀ t ∈ c.turns inputs, ∀ call ∈ t.calls, ∃ s, t.before.screen = .login s ∧
        Text.trim s.apiKey.value ≠ "" ∧ call = ⟨ticket, .login (Text.trim s.apiKey.value)⟩) ∧
      ((c.turns inputs).flatMap Turn.calls).length + c.screen.pending ≤
        (c.turns inputs).countP (fun t => t.input.message.answersLogin ticket) +
          (c.through inputs).screen.pending := by
  induction inputs generalizing c sent with
  | nil => exact ⟨hc, by simp [turns], by simp [turns, through]⟩
  | cons i rest ih =>
      obtain ⟨hanswers, hrest⟩ := htruthful
      have hfirst : ¬ (Turn.mk c i).LogsIn := hrefused ⟨c, i⟩ (by simp [turns])
      obtain ⟨hafter, hcalls⟩ := (Turn.outcome (t := ⟨c, i⟩) (hexternal i (by simp))).waiting hc
        fun _ => Turn.mild_response hsent hanswers hc.current hfirst
      have hstill : LoginsUnder ticket (sent ++ (Turn.mk c i).calls) := by
        intro call hcall
        rcases List.mem_append.mp hcall with h | h
        · exact hsent call h
        · obtain ⟨s, -, -, rfl⟩ := hcalls.typed call h
          exact fun _ => .inl ⟨_, rfl⟩
      obtain ⟨hlast, htyped, hcount⟩ := ih hafter (fun j hj => hexternal j (by simp [hj])) hstill
        hrest fun t ht => hrefused t (by simp [turns, ht])
      refine ⟨hlast, fun t ht => ?_, ?_⟩
      · rcases List.mem_cons.mp ht with rfl | ht
        · exact hcalls.typed
        · exact htyped t ht
      · have hfirstCount := hcalls.count
        rw [turns, List.flatMap_cons, List.length_append, List.countP_cons, through]
        cases hanswer : i.message.answersLogin ticket <;>
          simp only [hanswer, Bool.toNat_true, Bool.toNat_false, if_true, Bool.false_eq_true,
            if_false] at hfirstCount ⊢ <;> omega

end Console

-- ==================================================== without a session

/-- The moments at which there is no session: where a login leads then, the state, and the calls
that have gone out so far. -/
inductive SignedOut (settings : Settings) : Route → Console → List Call → Prop
  /-- Right after the start, at an address that needs a login, with no key to log in with. -/
  | started (now : Moment) {route : Route} {apiKey : Option String} : route.isPublic = false →
    (∀ key, apiKey = some key → Text.isAllBlank key = true) →
    SignedOut settings route (Turn.after ⟨start settings, now, .startup route apiKey⟩) []
  /-- Right after the end of a session, whatever has happened until then. -/
  | loggedOut (now : Moment) (inputs : List Input) :
    SignedOut settings .functions (Turn.after ⟨(start settings).through inputs, now, .logout⟩)
      (((start settings).turns inputs).flatMap Turn.calls ++
        Turn.calls ⟨(start settings).through inputs, now, .logout⟩)

/-- At those moments the console starts to wait for a login, and no login is on its way. -/
theorem SignedOut.waiting {settings : Settings} {redirect : Route} {c : Console} {sent : List Call}
    (h : SignedOut settings redirect c sent) :
    c.Waiting redirect c.ticket ∧ LoginsUnder c.ticket sent ∧ c.screen.pending = 0 := by
  cases h with
  | @started now route apiKey hlocked hblank =>
      have hnone : (apiKey.bind fun k => Text.nonBlank? (Text.trim k)) = none := by
        cases apiKey with
        | none => rfl
        | some key => simp [Text.nonBlank?, Text.isAllBlank_trim, hblank key rfl]
      have hafter : Turn.after ⟨start settings, now, .startup redirect apiKey⟩ =
          (start settings).requireLogin redirect := by
        rw [Turn.after_startup rfl, Console.startup, hnone]
        simp [hlocked]
      rw [hafter]
      exact ⟨⟨rfl, rfl, rfl, rfl, rfl⟩, by simp [LoginsUnder], rfl⟩
  | loggedOut now inputs =>
      refine ⟨⟨rfl, rfl, rfl, rfl, rfl⟩, fun call hcall hticket => ?_, rfl⟩
      rcases List.mem_append.mp hcall with h | h
      · have hle := ((start settings).issued_through inputs).2 call h (by rw [hticket]; rfl)
        rw [hticket] at hle
        exact absurd hle (Nat.not_succ_le_self _)
      · obtain rfl := List.mem_singleton.mp h
        exact .inr rfl

/-- No data is asked for without a login. Without a session, whatever messages come and as long as
no login is accepted: the login screen is shown and the palette is shut; all that goes out is logins
under the ticket of that screen, with the trimmed text of its input, which is not empty; at most one
of them has not been answered; and the login that is accepted leads to the address that was asked
for, after the end of a session to the functions. The responses are taken to be true ones. -/
theorem signed_out_until_login {settings : Settings} {redirect : Route} {c : Console}
    {sent : List Call} {inputs : List Input} (h : SignedOut settings redirect c sent)
    (hexternal : ∀ i ∈ inputs, i.message.IsExternal) (htruthful : Truthful sent (c.turns inputs))
    (hrefused : ∀ t ∈ c.turns inputs, ¬ t.LogsIn) :
    let turns := c.turns inputs
    let last := c.through inputs
    last.route = .login ∧ last.palette.isOpen = false ∧
      (∀ t ∈ turns, ∀ call ∈ t.calls, ∃ s, t.before.screen = .login s ∧
        Text.trim s.apiKey.value ≠ "" ∧ call = ⟨c.ticket, .login (Text.trim s.apiKey.value)⟩) ∧
      (turns.flatMap Turn.calls).length ≤
        turns.countP (fun t => t.input.message.answersLogin c.ticket) + 1 ∧
      ∀ now, let next := (last.process now (.api last.ticket (.loggedIn (.ok ())))).1
        next.route = redirect ∧ next.screen = (Screen.ofRoute last.screenContext redirect).1 := by
  obtain ⟨hwaiting, hsent, hpending⟩ := h.waiting
  obtain ⟨hlast, htyped, hcount⟩ :=
    Console.waiting_through hwaiting hexternal hsent htruthful hrefused
  have hone : (c.through inputs).screen.pending ≤ 1 := by
    obtain ⟨s, hs, -⟩ := Screen.login_of_redirect? hlast.screen
    rw [hs]
    exact Bool.toNat_le _
  rw [hpending, Nat.add_zero] at hcount
  exact ⟨hlast.route, hlast.closed, htyped, Nat.le_trans hcount (Nat.add_le_add_left hone _),
    fun now => hlast.loggedIn⟩

/-- A key is typed and refused, and typed again; what the palette, a digit or the way back would
open stays shut all the while. -/
theorem refused_login_opens_nothing :
    let refused : ApiError := .status 401 "unauthorized"
    let c := Turn.after ⟨start {}, 0, .startup .create none⟩
    let inputs : List Input :=
      [⟨1, .key (.char '1')⟩, ⟨2, .key .enter⟩, ⟨3, .key (.ctrl 'k')⟩, ⟨4, .key .esc⟩,
        ⟨5, .api ⟨.view, 1⟩ (.loggedIn (.error refused))⟩, ⟨6, .key (.f 2)⟩, ⟨7, .key .enter⟩]
    (c.through inputs).route = .login ∧ (c.through inputs).palette.isOpen = false ∧
      ((c.turns inputs).flatMap Turn.calls).length = 2 ∧
      ((c.through inputs).process 8
        (.api (c.through inputs).ticket (.loggedIn (.ok ())))).1.route = .create := by
  intro refused c inputs
  have hstarted : SignedOut {} .create c [] := .started 0 rfl (by simp)
  have htruthful : Truthful [] (c.turns inputs) := by
    simp only [inputs, Console.turns, Truthful, and_true]
    refine ⟨?_, ?_, ?_, ?_, ?_, ?_, ?_⟩ <;> intro ticket response h <;> cases h
    exact ⟨⟨⟨.view, 1⟩, .login "1"⟩, by decide +kernel, rfl, refusingServer refused, rfl⟩
  have hrefused : ∀ t ∈ c.turns inputs, ¬ t.LogsIn := by
    intro t ht
    simp only [inputs, Console.turns, List.mem_cons, List.not_mem_nil, or_false] at ht
    rcases ht with rfl | rfl | rfl | rfl | rfl | rfl | rfl <;> simp [Turn.LogsIn]
  obtain ⟨hroute, hclosed, -, -, hlogin⟩ :=
    signed_out_until_login hstarted (by simp [inputs, Message.IsExternal]) htruthful hrefused
  exact ⟨hroute, hclosed, by decide +kernel, (hlogin 8).1⟩

end FunctionConsole
