import FunctionConsole.Proofs.Tickets

/-!
# Turns

A message from outside is followed through by the messages that it leads to before anything else
happens. Such a turn is what a user or a server sees of the console, and this file says once, in
`Outcome`, everything that a turn can do; statements about runs are case distinctions on it and
never unfold the update loop.

`process_eq` is the law of following through: a message is processed by one update and then by
processing what it leads to. It holds because a follow-up is always of a smaller rank, so the bound
on the length of a chain is never felt.
-/

namespace FunctionConsole

/-- A message that comes from outside once a run has begun. -/
def Message.IsExternal : Message → Prop
  | .key _ | .tick | .api _ _ => True
  | _ => False

/-- A key that answers a question with yes. -/
def Key.isYes : Key → Bool
  | .char 'y' | .char 'Y' | .enter => true
  | _ => false

/-- A key that answers a question with no. -/
def Key.isNo : Key → Bool
  | .char 'n' | .char 'N' | .esc => true
  | _ => false

/-- How many updates a message can lead to: a key may answer a question, which may make a change. -/
def Message.rank : Message → Nat
  | .key _ => 3
  | .confirmAccepted => 2
  | _ => 1

/-- The palette leads somewhere only when the highlighted entry is chosen. -/
theorem Palette.handleKey_navigate {p p' : Palette} {key : Key} {route : Route}
    (h : p.handleKey key = (p', .navigate route)) :
    p' = p ∧ key = .enter ∧ ∃ item, p.selectedItem = some item ∧ item.route = route := by
  unfold handleKey at h
  split at h
  case h_7 =>
      split at h
      · next item hitem =>
          cases h
          exact ⟨rfl, rfl, item, hitem, rfl⟩
      · cases h
  all_goals cases h

namespace Console

-- ==================================================== following through

theorem applyEffects_next (c : Console) (now : Moment) (e : Effects) :
    (c.applyEffects now e).2.next = none := by
  unfold applyEffects
  dsimp only
  split <;> rfl

theorem switchTab_next (c : Console) (index : Nat) : (c.switchTab index).2.next = none := by
  unfold switchTab
  split
  · split <;> rfl
  · rfl

theorem startup_next (c : Console) (route : Route) (apiKey : Option String) :
    (c.startup route apiKey).2.next = none := by
  unfold startup
  split
  · rfl
  · split <;> rfl

theorem handleResponse_next (c : Console) (now : Moment) (ticket : Ticket) (response : Response) :
    (c.handleResponse now ticket response).2.next = none := by
  have hview : (c.viewResponse now response).2.next = none := by
    unfold viewResponse
    split
    · rfl
    · split
      · rfl
      · exact applyEffects_next _ now _
  have hpalette : (c.paletteResponse now response).2.next = none := by
    unfold paletteResponse
    split
    · rfl
    · split <;> rfl
    · rfl
  unfold handleResponse
  split <;> split <;> first | assumption | rfl

/-- A key answers a question with yes, or it leads to a message that leads no further. -/
theorem handleKey_next {c : Console} {now : Moment} {key : Key} {m : Message}
    (h : (c.handleKey now key).2.next = some m) :
    (key.isYes = true ∧ c.confirm.isSome = true ∧ m = .confirmAccepted) ∨ m.rank = 1 := by
  have hglobal : (c.globalKey key).2.next = some m → m.rank = 1 := by
    intro h
    unfold globalKey at h
    split at h
    case h_4 => split at h <;> cases h; rfl
    case h_5 =>
        split at h
        · rw [switchTab_next] at h
          cases h
        · cases h
    all_goals cases h <;> rfl
  have hscreen : (c.screenKey now key).2.next = some m → m.rank = 1 := by
    intro h
    unfold screenKey at h
    split at h
    · rw [applyEffects_next] at h
      cases h
    · exact hglobal h
  unfold handleKey at h
  split at h
  · cases h
    exact .inr rfl
  · split at h
    · next hconfirm =>
        unfold confirmKey at h
        split at h
        case h_1 | h_2 | h_3 =>
            cases h
            exact .inl ⟨rfl, hconfirm, rfl⟩
        all_goals cases h <;> exact .inr rfl
    · right
      split at h
      · unfold paletteKey at h
        split at h <;> cases h
        rfl
      · unfold openKey at h
        split at h
        · cases h
          rfl
        · split at h
          · split at h
            · rw [switchTab_next] at h
              cases h
            · exact hscreen h
          · exact hscreen h

/-- What an update leads to is of a smaller rank. -/
theorem update_next_rank {c : Console} {now : Moment} {m m' : Message}
    (h : (c.update now m).2.next = some m') : m'.rank < m.rank := by
  cases m with
  | key k =>
      rcases handleKey_next h with ⟨-, -, rfl⟩ | hrank
      · show 2 < 3
        decide
      · rw [hrank]
        show 1 < 3
        decide
  | confirmAccepted =>
      unfold update at h
      dsimp only at h
      split at h <;> cases h
      simp [Message.rank]
  | startup route apiKey =>
      rw [show c.update now (.startup route apiKey) = c.startup route apiKey from rfl,
        startup_next] at h
      cases h
  | back =>
      unfold update at h
      dsimp only at h
      split at h <;> cases h
  | togglePalette =>
      unfold update togglePalette at h
      dsimp only at h
      split at h
      · cases h
      · split at h <;> cases h
  | api ticket response =>
      rw [show c.update now (.api ticket response) = c.handleResponse now ticket response from rfl,
        handleResponse_next] at h
      cases h
  | tick | quit | navigate _ | reload | logout | confirmDeclined | mutate _ => cases h

theorem rank_pos (m : Message) : 0 < m.rank := by
  cases m <;> simp [Message.rank]

theorem rank_le_longestChain (m : Message) : m.rank ≤ longestChain := by
  cases m <;> simp [Message.rank, longestChain]

/-- A chain is one update and the chain of what it leads to. -/
theorem chain_succ (now : Moment) (n : Nat) (c : Console) (m : Message) :
    chain now (n + 1) c m =
      match (c.update now m).2.next with
      | none => ((c.update now m).1, (c.update now m).2.calls)
      | some m' =>
        ((chain now n (c.update now m).1 m').1,
          (c.update now m).2.calls ++ (chain now n (c.update now m).1 m').2) := rfl

/-- Chains that may be long enough are all the same. -/
theorem chain_eq_of_rank_le (now : Moment) {n k : Nat} {c : Console} {m : Message}
    (hn : m.rank ≤ n) (hk : m.rank ≤ k) : chain now n c m = chain now k c m := by
  induction n generalizing k c m with
  | zero => exact absurd (rank_pos m) (by omega)
  | succ n ih =>
      cases k with
      | zero => exact absurd (rank_pos m) (by omega)
      | succ k =>
          rw [chain_succ, chain_succ]
          cases hnext : (c.update now m).2.next with
          | none => rfl
          | some m' =>
              have hlt := update_next_rank hnext
              have hrest := ih (c := (c.update now m).1) (show m'.rank ≤ n by omega)
                (show m'.rank ≤ k by omega)
              simp only [hrest]

/-- A message is processed by one update, and then by processing what it leads to. -/
theorem process_eq (c : Console) (now : Moment) (m : Message) :
    c.process now m =
      match (c.update now m).2.next with
      | none => ((c.update now m).1, (c.update now m).2.calls)
      | some m' =>
        (((c.update now m).1.process now m').1,
          (c.update now m).2.calls ++ ((c.update now m).1.process now m').2) := by
  rw [process, chain_eq_of_rank_le now (rank_le_longestChain m)
    (Nat.le_succ_of_le (rank_le_longestChain m)), chain_succ]
  rfl

/-- A message that leads to nothing is processed by its update alone. -/
theorem process_of_next_none {c : Console} {now : Moment} {m : Message}
    (h : (c.update now m).2.next = none) :
    c.process now m = ((c.update now m).1, (c.update now m).2.calls) := by
  rw [process_eq, h]

/-- A message whose update only names another message is processed as that one. -/
theorem process_of_follow {c c' : Console} {now : Moment} {m m' : Message}
    (h : c.update now m = (c', .follow m')) : c.process now m = c'.process now m' := by
  rw [process_eq, h]
  rfl

/-- Starting up is done in one update. -/
theorem process_startup (c : Console) (now : Moment) (route : Route) (apiKey : Option String) :
    c.process now (.startup route apiKey) =
      ((c.startup route apiKey).1, (c.startup route apiKey).2.calls) :=
  process_of_next_none (m := .startup route apiKey) (startup_next c route apiKey)

/-- A response is dealt with in one update. -/
theorem process_api (c : Console) (now : Moment) (ticket : Ticket) (response : Response) :
    c.process now (.api ticket response) =
      ((c.handleResponse now ticket response).1, (c.handleResponse now ticket response).2.calls) :=
  process_of_next_none (m := .api ticket response) (handleResponse_next c now ticket response)

/-- A response of the current generation goes to the screen. -/
theorem handleResponse_current (c : Console) (now : Moment) (response : Response) :
    c.handleResponse now c.ticket response = c.viewResponse now response := by
  simp [handleResponse, ticket]

-- ==================================================== what a turn can do

/-- Neither a question nor the palette is in front of the screen. -/
def Uncovered (c : Console) : Prop := c.confirm = none ∧ c.palette.isOpen = false

/-- Everything that a message from outside can do, followed through: the message, the state left and
the calls that go out. -/
inductive Outcome (c : Console) (now : Moment) : Message → Console → List Call → Prop
  /-- At most toasts expire and the console is told to quit. -/
  | idle (m : Message) (toasts : Toasts) (shouldQuit : Bool) :
    Outcome c now m { c with toasts, shouldQuit } []
  /-- A question is answered with yes, and what it asks for is done. -/
  | accepted {key : Key} {dialog : Dialog} : key.isYes = true → c.confirm = some dialog →
    Outcome c now (.key key) { c with confirm := none }
      (c.calls [mutationRequest dialog.onConfirm])
  /-- A question is answered with no. -/
  | declined {key : Key} {dialog : Dialog} : key.isNo = true → c.confirm = some dialog →
    Outcome c now (.key key) { c with confirm := none } []
  /-- The open palette takes a key or its functions; it may close. -/
  | searched (m : Message) {palette : Palette} : c.palette.isOpen = true →
    palette.generation = c.palette.generation → Outcome c now m { c with palette } []
  /-- The palette opens and asks for its functions. -/
  | opened : c.Uncovered → c.route ≠ .login →
    Outcome c now (.key (.ctrl 'k')) { c with palette := c.palette.opened }
      [⟨⟨.palette, c.palette.generation + 1⟩, .listFunctions c.settings.ui.paletteLimit 0⟩]
  /-- The entry that is highlighted in the palette is followed. -/
  | chosen {item : PaletteItem} : c.confirm = none → c.palette.isOpen = true →
    c.palette.selectedItem = some item →
    Outcome c now (.key .enter) ({ c with palette := c.palette.close }.enter item.route).1
      ({ c with palette := c.palette.close }.enter item.route).2
  /-- The screen gives way to the one behind it. -/
  | back {route : Route} : c.Uncovered → c.backRoute = some route →
    Outcome c now (.key .esc) (c.enter route).1 (c.enter route).2
  /-- The screen opens anew; it had no use for the key itself. -/
  | reloaded : c.Uncovered → c.screen.handleKey (.char 'r') = none →
    Outcome c now (.key (.char 'r')) (c.enter c.route).1 (c.enter c.route).2
  /-- Another tab of the function opens. -/
  | tabbed (key : Key) {id : String} {tab : FunctionTab} : c.Uncovered →
    c.tabFunctionId = some id →
    Outcome c now (.key key) (c.enter (tab.route id)).1 (c.enter (tab.route id)).2
  /-- The session ends at the user's wish. -/
  | loggedOut : c.Uncovered → c.route ≠ .login →
    Outcome c now (.key (.ctrl 'l')) c.logout.1 c.logout.2.calls
  /-- The screen takes the key, and may raise a question. -/
  | worked {key : Key} {screen : Screen} {e : Effects} (toasts : Toasts) : c.Uncovered →
    c.screen.handleKey key = some (screen, e) → e.navigate = none →
    Outcome c now (.key key) { c with screen, toasts, confirm := e.confirm } (c.calls e.requests)
  /-- The screen takes the key and leads to another screen. -/
  | moved {key : Key} {screen : Screen} {e : Effects} {route : Route} (toasts : Toasts) :
    c.Uncovered → c.screen.handleKey key = some (screen, e) → e.navigate = some route →
    Outcome c now (.key key) ({ c with toasts }.enter route).1 ({ c with toasts }.enter route).2
  /-- The screen takes a response of its own generation. -/
  | received {response : Response} (toasts : Toasts) : isExpiry response = false →
    (c.screen.handleResponse response).2.navigate = none →
    Outcome c now (.api c.ticket response)
      { c with screen := (c.screen.handleResponse response).1, toasts }
      (c.calls (c.screen.handleResponse response).2.requests)
  /-- The screen takes a response of its own generation and leads to another screen. -/
  | finished {response : Response} {route : Route} (toasts : Toasts) : isExpiry response = false →
    (c.screen.handleResponse response).2.navigate = some route →
    Outcome c now (.api c.ticket response)
      ({ c with toasts }.enter route).1 ({ c with toasts }.enter route).2
  /-- A request of the screen is refused because the session is gone. -/
  | expired {response : Response} (toasts : Toasts) : (∀ result, response ≠ .loggedOut result) →
    isExpiry response = true →
    Outcome c now (.api c.ticket response)
      ({ c with toasts }.enter .login).1 ({ c with toasts }.enter .login).2
  /-- The request of the palette is refused because the session is gone. -/
  | paletteExpired (ticket : Ticket) (response : Response) (toasts : Toasts) :
    c.palette.isOpen = true →
    Outcome c now (.api ticket response)
      ({ c with toasts, palette := c.palette.close }.enter .login).1
      ({ c with toasts, palette := c.palette.close }.enter .login).2

/-- Nothing happens. -/
theorem outcome_same (c : Console) (now : Moment) (m : Message) : Outcome c now m c [] :=
  .idle m c.toasts c.shouldQuit

section

variable {c : Console} {now : Moment}

/-- An outcome of one update, when nothing follows. -/
theorem outcome_of_update {m : Message} (hnext : (c.update now m).2.next = none)
    (h : Outcome c now m (c.update now m).1 (c.update now m).2.calls) :
    Outcome c now m (c.process now m).1 (c.process now m).2 := by
  rw [process_of_next_none hnext]
  exact h

theorem update_yes {key : Key} (hkey : key.isYes = true) (hdialog : c.confirm.isSome = true) :
    c.update now (.key key) = (c, .follow .confirmAccepted) := by
  unfold Key.isYes at hkey
  split at hkey <;> simp [update, handleKey, hdialog, confirmKey] at hkey ⊢

theorem update_accepted {dialog : Dialog} (hdialog : c.confirm = some dialog) :
    c.update now .confirmAccepted =
      ({ c with confirm := none }, .follow (.mutate dialog.onConfirm)) := by
  simp [update, hdialog]

/-- A yes makes exactly the change that the question asks for. -/
theorem process_yes {key : Key} {dialog : Dialog} (hkey : key.isYes = true)
    (hdialog : c.confirm = some dialog) :
    c.process now (.key key) =
      ({ c with confirm := none }, c.calls [mutationRequest dialog.onConfirm]) := by
  have hasked : c.confirm.isSome = true := by rw [hdialog]; rfl
  rw [process_of_follow (update_yes hkey hasked), process_of_follow (update_accepted hdialog)]
  rfl

/-- A no makes the question go away and nothing else. -/
theorem process_no {key : Key} (hkey : key.isNo = true) (hdialog : c.confirm.isSome = true) :
    c.process now (.key key) = ({ c with confirm := none }, []) := by
  have hkeyed : c.update now (.key key) = (c, .follow .confirmDeclined) := by
    unfold Key.isNo at hkey
    split at hkey <;> simp [update, handleKey, hdialog, confirmKey] at hkey ⊢
  rw [process_of_follow hkeyed]
  rfl

/-- A question swallows every key that neither answers it nor quits. -/
theorem update_swallowed {key : Key} (hquit : key ≠ .ctrl 'c') (hyes : key.isYes = false)
    (hno : key.isNo = false) (hdialog : c.confirm.isSome = true) :
    c.update now (.key key) = (c, .none) := by
  have hnothing : confirmKey key = .none := by
    unfold confirmKey
    split <;> simp_all [Key.isYes, Key.isNo]
  simp [update, handleKey, hquit, hdialog, hnothing]

/-- What a key does while a question waits. -/
theorem outcome_of_confirmKey {key : Key} {dialog : Dialog} (hquit : key ≠ .ctrl 'c')
    (hdialog : c.confirm = some dialog) :
    Outcome c now (.key key) (c.process now (.key key)).1 (c.process now (.key key)).2 := by
  have hwaiting : c.confirm.isSome = true := by rw [hdialog]; rfl
  cases hyes : key.isYes with
  | true =>
      rw [process_yes hyes hdialog]
      exact .accepted hyes hdialog
  | false =>
      cases hno : key.isNo with
      | true =>
          rw [process_no hno hwaiting]
          exact .declined hno hdialog
      | false =>
          have hupdate : c.update now (.key key) = (c, .none) :=
            update_swallowed hquit hyes hno hwaiting
          rw [process_of_next_none (by rw [hupdate]; rfl), hupdate]
          exact outcome_same c now _

/-- The highlighted entry opens its screen, and the palette closes. -/
theorem process_chosen {item : PaletteItem} (hconfirm : c.confirm = none)
    (hopen : c.palette.isOpen = true) (hitem : c.palette.selectedItem = some item) :
    c.process now (.key .enter) = { c with palette := c.palette.close }.enter item.route := by
  have hkey : c.palette.handleKey .enter = (c.palette, .navigate item.route) := by
    simp [Palette.handleKey, hitem]
  have hunasked : c.confirm.isSome = false := by rw [hconfirm]; rfl
  have hupdate : c.update now (.key .enter) = (c, .follow (.navigate item.route)) := by
    simp [update, handleKey, hunasked, hopen, paletteKey, hkey]
  rw [process_of_follow hupdate]
  rfl

/-- What a key does while the palette is open. -/
theorem outcome_of_paletteKey {key : Key} (hquit : key ≠ .ctrl 'c') (hconfirm : c.confirm = none)
    (hopen : c.palette.isOpen = true) :
    Outcome c now (.key key) (c.process now (.key key)).1 (c.process now (.key key)).2 := by
  have hupdate : c.update now (.key key) = c.paletteKey key := by
    simp [update, handleKey, hquit, hconfirm, hopen]
  have hgeneration := c.palette.handleKey_generation key
  rcases hkey : c.palette.handleKey key with ⟨palette, effect⟩
  rw [hkey] at hgeneration
  cases effect with
  | none =>
      have hdone : c.update now (.key key) = ({ c with palette }, .none) := by
        simp [hupdate, paletteKey, hkey]
      rw [process_of_next_none (by rw [hdone]; rfl), hdone]
      exact .searched _ hopen hgeneration
  | close =>
      have hdone : c.update now (.key key) = ({ c with palette := palette.close }, .none) := by
        simp [hupdate, paletteKey, hkey]
      rw [process_of_next_none (by rw [hdone]; rfl), hdone]
      exact .searched _ hopen hgeneration
  | navigate route =>
      obtain ⟨rfl, rfl, item, hitem, rfl⟩ := Palette.handleKey_navigate hkey
      rw [process_chosen hconfirm hopen hitem]
      exact .chosen hconfirm hopen hitem

/-- A digit or a function key opens another tab, or nothing happens. -/
theorem outcome_of_switchTab {key : Key} {index : Nat} (huncovered : c.Uncovered)
    (hupdate : c.update now (.key key) = c.switchTab index) :
    Outcome c now (.key key) (c.process now (.key key)).1 (c.process now (.key key)).2 := by
  refine outcome_of_update (by rw [hupdate, switchTab_next]) ?_
  rw [hupdate]
  unfold switchTab
  split
  · next id tab hid _ =>
      split
      · exact outcome_same c now _
      · exact .tabbed key huncovered hid
  · exact outcome_same c now _

/-- A key whose update only asks to quit, to go nowhere, or for nothing leaves all as it is. -/
theorem outcome_of_idle {m : Message} (h : c.update now m = (c, .none)) :
    Outcome c now m (c.process now m).1 (c.process now m).2 := by
  rw [process_of_next_none (by rw [h]; rfl), h]
  exact outcome_same c now m

/-- Asking to quit does nothing else. -/
theorem outcome_of_quit {m : Message} (h : c.update now m = (c, .follow .quit)) :
    Outcome c now m (c.process now m).1 (c.process now m).2 := by
  rw [process_of_follow h]
  exact .idle m c.toasts true

/-- What a key does that the screen leaves alone. -/
theorem outcome_of_globalKey {key : Key} (huncovered : c.Uncovered)
    (hscreen : c.screen.handleKey key = none)
    (hupdate : c.update now (.key key) = c.globalKey key) :
    Outcome c now (.key key) (c.process now (.key key)).1 (c.process now (.key key)).2 := by
  unfold globalKey at hupdate
  split at hupdate
  case h_1 =>
      rw [process_of_follow hupdate]
      cases hback : c.backRoute with
      | none =>
          have hdone : c.update now .back = (c, .none) := by simp [update, hback]
          rw [process_of_next_none (by rw [hdone]; rfl), hdone]
          exact outcome_same c now _
      | some route =>
          have hdone : c.update now .back = c.goTo route := by simp [update, hback]
          rw [process_of_next_none (by rw [hdone]; rfl), hdone]
          exact .back huncovered hback
  case h_2 => exact outcome_of_quit hupdate
  case h_3 =>
      rw [process_of_follow hupdate]
      exact .reloaded huncovered hscreen
  case h_4 =>
      split at hupdate
      · exact outcome_of_idle hupdate
      · next hroute =>
          rw [process_of_follow hupdate]
          exact .loggedOut huncovered hroute
  case h_5 =>
      split at hupdate
      · exact outcome_of_switchTab huncovered hupdate
      · exact outcome_of_idle hupdate
  case h_6 => exact outcome_of_idle hupdate

/-- What effects do to the screen that wants them: it stays, or it gives way to another one, which
it does without asking the server for anything. -/
theorem applyEffects_cases (c : Console) (now : Moment) {e : Effects} (he : e.Orderly) :
    ∃ toasts, e.navigate = none ∧ c.applyEffects now e =
        ({ c with toasts, confirm := e.confirm <|> c.confirm }, { calls := c.calls e.requests }) ∨
      ∃ route, e.navigate = some route ∧ c.applyEffects now e = { c with toasts }.goTo route := by
  refine ⟨(c.addToasts now e.toasts).toasts, ?_⟩
  unfold applyEffects
  cases hroute : e.navigate with
  | none => exact .inl ⟨rfl, rfl⟩
  | some route =>
      have hrequests : e.requests = [] := by simpa [hroute] using he.unmixed
      refine .inr ⟨route, rfl, ?_⟩
      rw [hrequests]
      rfl

/-- What a key does on the screen, or to what it leaves alone. -/
theorem outcome_of_screenKey {key : Key} (huncovered : c.Uncovered)
    (hupdate : c.update now (.key key) = c.screenKey now key) :
    Outcome c now (.key key) (c.process now (.key key)).1 (c.process now (.key key)).2 := by
  unfold screenKey at hupdate
  split at hupdate
  · next screen e hscreen =>
      refine outcome_of_update (by rw [hupdate, applyEffects_next]) ?_
      rw [hupdate]
      obtain ⟨toasts, ⟨hstay, heq⟩ | ⟨route, hleave, heq⟩⟩ :=
        applyEffects_cases { c with screen } now (Screen.handleKey_orderly hscreen)
      · rw [heq]
        have hconfirm : (e.confirm <|> c.confirm) = e.confirm := by simp [huncovered.1]
        dsimp only
        rw [hconfirm]
        exact .worked toasts huncovered hscreen hstay
      · rw [heq]
        exact .moved toasts huncovered hscreen hleave
  · next hscreen => exact outcome_of_globalKey huncovered hscreen hupdate

/-- What a key does when nothing is in front of the screen. -/
theorem outcome_of_openKey {key : Key} (huncovered : c.Uncovered)
    (hupdate : c.update now (.key key) = c.openKey now key) :
    Outcome c now (.key key) (c.process now (.key key)).1 (c.process now (.key key)).2 := by
  unfold openKey at hupdate
  split at hupdate
  · next hkey =>
      simp only [Bool.and_eq_true, decide_eq_true_eq] at hkey
      obtain ⟨rfl, hroute⟩ := hkey
      have hroute : c.route ≠ .login := by simpa using hroute
      rw [process_of_follow hupdate]
      have hdone : c.update now .togglePalette = ({ c with palette := c.palette.opened },
          { calls := [⟨⟨.palette, c.palette.generation + 1⟩,
            .listFunctions c.settings.ui.paletteLimit 0⟩] }) := by
        simp [update, togglePalette, huncovered.2, hroute]
      rw [process_of_next_none (by rw [hdone]), hdone]
      exact .opened huncovered hroute
  · split at hupdate
    · split at hupdate
      · exact outcome_of_switchTab huncovered hupdate
      · exact outcome_of_screenKey huncovered hupdate
    · exact outcome_of_screenKey huncovered hupdate

/-- What a key does. -/
theorem outcome_of_key (c : Console) (now : Moment) (key : Key) :
    Outcome c now (.key key) (c.process now (.key key)).1 (c.process now (.key key)).2 := by
  by_cases hquit : key = .ctrl 'c'
  · subst hquit
    exact outcome_of_quit (by simp [update, handleKey])
  · cases hconfirm : c.confirm with
    | some dialog => exact outcome_of_confirmKey hquit hconfirm
    | none =>
        cases hopen : c.palette.isOpen with
        | true => exact outcome_of_paletteKey hquit hconfirm hopen
        | false =>
            refine outcome_of_openKey ⟨hconfirm, hopen⟩ ?_
            simp [update, handleKey, hquit, hconfirm, hopen]

/-- What a response for the screen does. -/
theorem outcome_of_viewResponse (c : Console) (now : Moment) (response : Response) :
    Outcome c now (.api c.ticket response) (c.viewResponse now response).1
      (c.viewResponse now response).2.calls := by
  unfold viewResponse
  split
  · exact outcome_same c now _
  · next hkind =>
      split
      · next hexpiry => exact .expired _ hkind hexpiry
      · next hexpiry =>
          have hexpiry : isExpiry response = false := by simpa using hexpiry
          obtain ⟨toasts, ⟨hstay, heq⟩ | ⟨route, hleave, heq⟩⟩ :=
            applyEffects_cases { c with screen := (c.screen.handleResponse response).1 } now
              (c.screen.handleResponse_orderly response)
          · dsimp only
            rw [heq, Screen.handleResponse_confirm]
            exact .received toasts hexpiry hstay
          · dsimp only
            rw [heq]
            exact .finished toasts hexpiry hleave

/-- What a response for the open palette does. -/
theorem outcome_of_paletteResponse {ticket : Ticket} (response : Response)
    (hopen : c.palette.isOpen = true) :
    Outcome c now (.api ticket response) (c.paletteResponse now response).1
      (c.paletteResponse now response).2.calls := by
  unfold paletteResponse
  split
  · exact .searched _ hopen rfl
  · split
    · exact .paletteExpired ticket _ _ hopen
    · exact .searched _ hopen rfl
  · exact outcome_same c now _

/-- What a response does. -/
theorem outcome_of_response (c : Console) (now : Moment) (ticket : Ticket) (response : Response) :
    Outcome c now (.api ticket response) (c.handleResponse now ticket response).1
      (c.handleResponse now ticket response).2.calls := by
  obtain ⟨scope, generation⟩ := ticket
  unfold handleResponse
  cases scope with
  | palette =>
      dsimp only
      split
      · next h => exact outcome_of_paletteResponse response (by simp_all)
      · exact outcome_same c now _
  | view =>
      dsimp only
      split
      · next h =>
          obtain rfl := beq_iff_eq.mp h
          exact outcome_of_viewResponse c now response
      · exact outcome_same c now _

/-- A turn does one of the things that `Outcome` lists. -/
theorem outcome_of_external {m : Message} (hm : m.IsExternal) (c : Console) (now : Moment) :
    Outcome c now m (c.process now m).1 (c.process now m).2 := by
  cases m with
  | key key => exact outcome_of_key c now key
  | tick => exact .idle .tick (c.toasts.expire now).1 c.shouldQuit
  | api ticket response =>
      rw [process_api]
      exact outcome_of_response c now ticket response
  | _ => cases hm

/-- Logging out sends nothing but word to the server, in the name of the login screen. -/
theorem logout_calls (c : Console) :
    c.logout.2.calls = [⟨⟨.view, c.generation + 1⟩, .logout⟩] := rfl

end

end Console

end FunctionConsole
