import FunctionConsole.Console
import FunctionConsole.Proofs.Effects

/-!
# Tickets

A call goes out with the ticket of the screen or of the palette it was made for, and its response
counts only while that ticket is current. This file follows the two generations through every
update.

`Advances` is what one update does to them: generations only grow, the palette opens only as a new
generation, and every call that goes out carries a ticket that is current in the state left behind.
There is one lemma for each function that an update is made of. By induction over a run follows
`stale_responses_are_inert`: no call is born stale, and once its screen is left or its palette
closed, its response changes nothing any more.
-/

namespace FunctionConsole

-- ==================================================== the palette

namespace Palette

@[simp] theorem opened_generation (p : Palette) : p.opened.generation = p.generation + 1 := rfl

@[simp] theorem close_isOpen (p : Palette) : p.close.isOpen = false := rfl

@[simp] theorem setFunctions_isOpen (p : Palette) (fs : List Function) :
    (p.setFunctions fs).isOpen = p.isOpen := rfl

@[simp] theorem setFunctions_generation (p : Palette) (fs : List Function) :
    (p.setFunctions fs).generation = p.generation := rfl

/-- No key to the palette opens or closes it by itself; closing is left to the console. -/
@[simp] theorem handleKey_isOpen (p : Palette) (key : Key) :
    (p.handleKey key).1.isOpen = p.isOpen := by
  unfold handleKey
  split
  case h_7 => split <;> rfl
  case h_8 =>
      unfold editQuery
      dsimp only
      split <;> rfl
  all_goals rfl

@[simp] theorem handleKey_generation (p : Palette) (key : Key) :
    (p.handleKey key).1.generation = p.generation := by
  unfold handleKey
  split
  case h_7 => split <;> rfl
  case h_8 =>
      unfold editQuery
      dsimp only
      split <;> rfl
  all_goals rfl

end Palette

namespace Console

-- ==================================================== current tickets

/-- A ticket of the screen that is shown, or of the palette that is open. -/
def Current (c : Console) (t : Ticket) : Prop :=
  match t.scope with
  | .view => t.generation = c.generation
  | .palette => c.palette.isOpen = true ∧ t.generation = c.palette.generation

/-- The calls of the screen carry its ticket. -/
theorem calls_current (c : Console) (requests : List Request) :
    ∀ call ∈ c.calls requests, c.Current call.ticket := by
  intro call hcall
  obtain ⟨r, -, rfl⟩ := List.mem_map.mp hcall
  rfl

/-- A response whose ticket is not current changes nothing, whatever it says. -/
theorem handleResponse_of_not_current {c : Console} {t : Ticket} (h : ¬ c.Current t) (now : Moment)
    (response : Response) : c.handleResponse now t response = (c, .none) := by
  obtain ⟨scope, generation⟩ := t
  cases scope with
  | view => exact if_neg (by simpa [Current] using h)
  | palette => exact if_neg (by simpa [Current] using h)

-- ==================================================== generations only grow

/-- Generations only grow, and a palette that is open was open before or is of a new generation. -/
structure Grows (c c' : Console) : Prop where
  screen : c.generation ≤ c'.generation
  palette : c.palette.generation ≤ c'.palette.generation
  opening : c'.palette.isOpen = true →
    c.palette.isOpen = true ∨ c.palette.generation < c'.palette.generation

/-- Whatever leaves generation and palette alone lets nothing shrink. -/
theorem grows_of_eq {c c' : Console} (hg : c'.generation = c.generation)
    (hp : c'.palette = c.palette) : Grows c c' :=
  ⟨Nat.le_of_eq hg.symm, hp ▸ Nat.le_refl _, fun h => .inl (hp ▸ h)⟩

/-- Changing the palette within its generation, without opening it. -/
theorem grows_of_palette (c : Console) {p : Palette} (hg : p.generation = c.palette.generation)
    (hp : p.isOpen = true → c.palette.isOpen = true) : Grows c { c with palette := p } :=
  ⟨Nat.le_refl _, Nat.le_of_eq hg.symm, fun h => .inl (hp h)⟩

theorem grows_close (c : Console) : Grows c { c with palette := c.palette.close } :=
  grows_of_palette c rfl (by simp)

theorem Grows.refl (c : Console) : Grows c c := grows_of_eq rfl rfl

theorem Grows.trans {c c' c'' : Console} (h : Grows c c') (h' : Grows c' c'') : Grows c c'' where
  screen := Nat.le_trans h.screen h'.screen
  palette := Nat.le_trans h.palette h'.palette
  opening hopen := by
    rcases h'.opening hopen with hopen' | hlt
    · rcases h.opening hopen' with hopen'' | hlt
      · exact .inl hopen''
      · exact .inr (Nat.lt_of_lt_of_le hlt h'.palette)
    · exact .inr (Nat.lt_of_le_of_lt h.palette hlt)

/-- A ticket of a generation that has passed, or of a palette that is closed, never becomes current
again. -/
theorem Grows.not_current {c c' : Console} (h : Grows c c') {t : Ticket}
    (hview : t.scope = .view → t.generation < c.generation)
    (hpalette : t.scope = .palette → t.generation ≤ c.palette.generation ∧
      (c.palette.isOpen = true → t.generation < c.palette.generation)) : ¬ c'.Current t := by
  obtain ⟨scope, generation⟩ := t
  cases scope with
  | view =>
      intro heq
      have hlt := Nat.lt_of_lt_of_le (hview rfl) h.screen
      exact absurd heq (Nat.ne_of_lt hlt)
  | palette =>
      rintro ⟨hopen, heq⟩
      dsimp only at heq hpalette
      obtain ⟨hle, hlt⟩ := hpalette rfl
      have := h.palette
      rcases h.opening hopen with hopen' | hlt'
      · have := hlt hopen'
        omega
      · omega

-- ==================================================== one update

/-- What an update does to the generations: they only grow, and the calls that go out are current
in the state left behind. -/
structure Advances (c : Console) (p : Console × Reply) : Prop where
  grows : Grows c p.1
  current : ∀ call ∈ p.2.calls, p.1.Current call.ticket

/-- Without calls there is only the state to look at. -/
theorem advances_of_no_calls {c c' : Console} {r : Reply} (hr : r.calls = []) (h : Grows c c') :
    Advances c (c', r) :=
  ⟨h, by simp [hr]⟩

/-- An update may be seen as one from a state that was prepared for it. -/
theorem Advances.prepared {c c' : Console} {p : Console × Reply} (hp : Advances c' p)
    (h : Grows c c') : Advances c p :=
  ⟨h.trans hp.grows, hp.current⟩

theorem grows_enter (c : Console) (route : Route) : Grows c (c.enter route).1 :=
  ⟨Nat.le_succ _, Nat.le_refl _, .inl⟩

theorem goTo_advances (c : Console) (route : Route) : Advances c (c.goTo route) :=
  ⟨grows_enter c route, calls_current _ _⟩

theorem autoLogin_advances (c : Console) (apiKey : String) (redirect : Route) :
    Advances c (c.autoLogin apiKey redirect) :=
  ⟨⟨Nat.le_succ _, Nat.le_refl _, .inl⟩, calls_current _ _⟩

theorem logout_advances (c : Console) : Advances c c.logout where
  grows := (grows_close c).trans (grows_enter _ .login)
  current call hcall := by
    rcases List.mem_append.mp hcall with h | h
    · exact calls_current _ _ call h
    · exact calls_current _ _ call h

theorem startup_advances (c : Console) (route : Route) (apiKey : Option String) :
    Advances c (c.startup route apiKey) := by
  unfold startup
  split
  · exact autoLogin_advances c _ _
  · split
    · exact goTo_advances c route
    · exact advances_of_no_calls rfl ⟨Nat.le_succ _, Nat.le_refl _, .inl⟩

theorem togglePalette_advances (c : Console) : Advances c c.togglePalette := by
  unfold togglePalette
  split
  · exact advances_of_no_calls rfl (grows_close c)
  · split
    · exact advances_of_no_calls rfl (Grows.refl c)
    · refine ⟨⟨Nat.le_refl _, Nat.le_succ _, fun _ => .inr (Nat.lt_succ_self _)⟩, ?_⟩
      intro call hcall
      obtain rfl := List.mem_singleton.mp hcall
      exact ⟨rfl, rfl⟩

/-- A screen asks before it leaves, with the ticket that it is about to lose; since it never does
both, no call is stale from the start. -/
theorem applyEffects_advances (c : Console) (now : Moment) {e : Effects} (he : e.Orderly) :
    Advances c (c.applyEffects now e) := by
  unfold applyEffects
  dsimp only
  split
  · exact ⟨grows_of_eq rfl rfl, calls_current _ _⟩
  · next route hroute =>
      have hrequests : e.requests = [] := by simpa [hroute] using he.unmixed
      rw [hrequests]
      exact (goTo_advances _ route).prepared (grows_of_eq rfl rfl)

-- ==================================================== keys

theorem confirmKey_calls (key : Key) : (confirmKey key).calls = [] := by
  unfold confirmKey
  split <;> rfl

theorem paletteKey_advances (c : Console) (key : Key) : Advances c (c.paletteKey key) := by
  have hg := c.palette.handleKey_generation key
  have ho := c.palette.handleKey_isOpen key
  unfold paletteKey
  split <;> next heq =>
    rw [heq] at hg ho
    refine advances_of_no_calls rfl (grows_of_palette c hg ?_)
    simp_all

theorem switchTab_advances (c : Console) (index : Nat) : Advances c (c.switchTab index) := by
  unfold switchTab
  split
  · split
    · exact advances_of_no_calls rfl (Grows.refl c)
    · exact goTo_advances c _
  · exact advances_of_no_calls rfl (Grows.refl c)

theorem globalKey_advances (c : Console) (key : Key) : Advances c (c.globalKey key) := by
  have hnothing (r : Reply) (hr : r.calls = []) : Advances c (c, r) :=
    advances_of_no_calls hr (Grows.refl c)
  unfold globalKey
  split
  case h_4 => split <;> exact hnothing _ rfl
  case h_5 =>
      split
      · exact switchTab_advances c _
      · exact hnothing _ rfl
  all_goals exact hnothing _ rfl

theorem screenKey_advances (c : Console) (now : Moment) (key : Key) :
    Advances c (c.screenKey now key) := by
  unfold screenKey
  split
  · next screen effects h =>
      have hadvances := applyEffects_advances { c with screen } now (Screen.handleKey_orderly h)
      exact hadvances.prepared (grows_of_eq rfl rfl)
  · exact globalKey_advances c key

theorem openKey_advances (c : Console) (now : Moment) (key : Key) :
    Advances c (c.openKey now key) := by
  unfold openKey
  split
  · exact advances_of_no_calls rfl (Grows.refl c)
  · split
    · split
      · exact switchTab_advances c _
      · exact screenKey_advances c now _
    · exact screenKey_advances c now _

theorem handleKey_advances (c : Console) (now : Moment) (key : Key) :
    Advances c (c.handleKey now key) := by
  unfold handleKey
  split
  · exact advances_of_no_calls rfl (Grows.refl c)
  · split
    · exact advances_of_no_calls (confirmKey_calls key) (Grows.refl c)
    · split
      · exact paletteKey_advances c key
      · exact openKey_advances c now key

-- ==================================================== responses

theorem sessionExpired_advances (c : Console) (now : Moment) : Advances c (c.sessionExpired now) :=
  (goTo_advances _ .login).prepared (grows_of_eq rfl rfl)

theorem paletteResponse_advances (c : Console) (now : Moment) (response : Response) :
    Advances c (c.paletteResponse now response) := by
  unfold paletteResponse
  split
  · exact advances_of_no_calls rfl (grows_of_palette c (by simp) (by simp))
  · split
    · exact (sessionExpired_advances _ now).prepared (grows_close c)
    · exact advances_of_no_calls rfl (grows_of_palette c (by simp) (by simp))
  · exact advances_of_no_calls rfl (Grows.refl c)

theorem viewResponse_advances (c : Console) (now : Moment) (response : Response) :
    Advances c (c.viewResponse now response) := by
  unfold viewResponse
  split
  · exact advances_of_no_calls rfl (Grows.refl c)
  · split
    · exact sessionExpired_advances c now
    · exact (applyEffects_advances _ now (c.screen.handleResponse_orderly response)).prepared
        (grows_of_eq rfl rfl)

theorem handleResponse_advances (c : Console) (now : Moment) (ticket : Ticket)
    (response : Response) : Advances c (c.handleResponse now ticket response) := by
  unfold handleResponse
  split
  · split
    · exact paletteResponse_advances c now response
    · exact advances_of_no_calls rfl (Grows.refl c)
  · split
    · exact viewResponse_advances c now response
    · exact advances_of_no_calls rfl (Grows.refl c)

/-- Every update, whatever the state and the message: generations only grow, and the calls that go
out are current in the state left behind. -/
theorem update_advances (c : Console) (now : Moment) (m : Message) :
    Advances c (c.update now m) := by
  cases m with
  | key k => exact handleKey_advances c now k
  | tick => exact advances_of_no_calls rfl (grows_of_eq rfl rfl)
  | quit => exact advances_of_no_calls rfl (grows_of_eq rfl rfl)
  | startup route apiKey => exact startup_advances c route apiKey
  | navigate route =>
      exact (goTo_advances _ route).prepared (grows_close c)
  | back =>
      unfold update
      dsimp only
      split
      · exact goTo_advances c _
      · exact advances_of_no_calls rfl (Grows.refl c)
  | reload => exact goTo_advances c c.route
  | logout => exact logout_advances c
  | togglePalette => exact togglePalette_advances c
  | confirmAccepted =>
      unfold update
      dsimp only
      split
      · exact advances_of_no_calls rfl (grows_of_eq rfl rfl)
      · exact advances_of_no_calls rfl (Grows.refl c)
  | confirmDeclined => exact advances_of_no_calls rfl (grows_of_eq rfl rfl)
  | mutate m => exact ⟨Grows.refl c, calls_current _ _⟩
  | api ticket response => exact handleResponse_advances c now ticket response

-- ==================================================== runs of updates

/-- A message and the moment at which it is handled. -/
structure Input where
  now : Moment
  message : Message

/-- The state after a list of messages, one update for each. -/
def after (c : Console) (inputs : List Input) : Console :=
  inputs.foldl (fun c i => (c.update i.now i.message).1) c

theorem after_append (c : Console) (first second : List Input) :
    c.after (first ++ second) = (c.after first).after second :=
  List.foldl_append

theorem after_snoc (c : Console) (past : List Input) (i : Input) :
    c.after (past ++ [i]) = ((c.after past).update i.now i.message).1 :=
  after_append c past [i]

/-- Along any list of messages nothing shrinks. -/
theorem grows_after (c : Console) (inputs : List Input) : Grows c (c.after inputs) := by
  induction inputs generalizing c with
  | nil => exact Grows.refl c
  | cons i rest ih => exact (update_advances c i.now i.message).grows.trans (ih _)

/-- What a call was made for is gone: another screen has been opened since, or the palette has been
closed or opened anew. -/
def Superseded (scope : TicketScope) (c later : Console) : Prop :=
  match scope with
  | .view => c.generation < later.generation
  | .palette => later.palette.isOpen = false ∨ c.palette.generation < later.palette.generation

/-- A ticket that was current and whose screen or palette is gone never becomes current again. -/
theorem not_current_of_superseded {c later last : Console} {t : Ticket} (hcurrent : c.Current t)
    (hlater : Grows c later) (hgone : Superseded t.scope c later) (hlast : Grows later last) :
    ¬ last.Current t := by
  obtain ⟨scope, generation⟩ := t
  cases scope with
  | view =>
      have hgen : generation = c.generation := hcurrent
      have hlt : c.generation < later.generation := hgone
      exact hlast.not_current (fun _ => by dsimp only; omega) (fun h => by cases h)
  | palette =>
      have hgen : generation = c.palette.generation := hcurrent.2
      have hle := hlater.palette
      refine hlast.not_current (fun h => by cases h) (fun _ => ⟨by dsimp only; omega, ?_⟩)
      intro hopen
      rcases hgone with hclosed | hlt
      · rw [hclosed] at hopen
        cases hopen
      · dsimp only
        omega

/-- Stale responses have no effect. Take any messages from the start on, an update `i` among them,
and any messages after it: the update lets neither generation shrink, its calls carry tickets that
are current in the state it leaves, and once the screen or the palette of such a call is gone, its
response changes nothing at all, however late it comes. The tickets of the responses in between need
not even be real ones. -/
theorem stale_responses_are_inert (settings : Settings) (past : List Input) (i : Input)
    (next rest : List Input) :
    let before := (start settings).after past
    let left := (start settings).after (past ++ [i])
    let later := (start settings).after (past ++ [i] ++ next)
    let last := (start settings).after (past ++ [i] ++ next ++ rest)
    before.generation ≤ left.generation ∧
      before.palette.generation ≤ left.palette.generation ∧
      ∀ call ∈ (before.update i.now i.message).2.calls,
        left.Current call.ticket ∧
          (Superseded call.ticket.scope left later → ∀ now response,
            last.update now (.api call.ticket response) = (last, .none)) := by
  intro before left later last
  have hadvances := update_advances before i.now i.message
  have hleft : (before.update i.now i.message).1 = left := (after_snoc _ past i).symm
  have hgrows : Grows before left := hleft ▸ hadvances.grows
  have hlater : Grows left later := by
    rw [show later = left.after next from after_append _ _ _]
    exact grows_after left next
  have hlast : Grows later last := by
    rw [show last = later.after rest from after_append _ _ _]
    exact grows_after later rest
  refine ⟨hgrows.screen, hgrows.palette, fun call hcall => ?_⟩
  have hcurrent : left.Current call.ticket := hleft ▸ hadvances.current call hcall
  refine ⟨hcurrent, fun hgone now response => ?_⟩
  exact handleResponse_of_not_current (not_current_of_superseded hcurrent hlater hgone hlast) now
    response

/-- The list of functions is left before it arrives, and the palette is closed and opened anew
before its functions do; both responses come to nothing, though each would end the session. -/
theorem late_refusals_are_inert :
    let left := (start {}).after
      [⟨0, .navigate .functions⟩, ⟨1, .navigate .create⟩, ⟨2, .tick⟩]
    let reopened := (start {}).after
      [⟨0, .navigate .functions⟩, ⟨1, .togglePalette⟩, ⟨2, .togglePalette⟩, ⟨3, .togglePalette⟩]
    let refusal : Response := .functions ⟨20, 0⟩ (.error (.status 401 "unauthorized"))
    left.update 3 (.api ⟨.view, 1⟩ refusal) = (left, .none) ∧
      reopened.update 4 (.api ⟨.palette, 1⟩ refusal) = (reopened, .none) := by
  constructor
  · exact ((stale_responses_are_inert {} [] ⟨0, .navigate .functions⟩ [⟨1, .navigate .create⟩]
      [⟨2, .tick⟩]).2.2 ⟨⟨.view, 1⟩, .listFunctions 20 0⟩ (by decide)).2
      (by unfold Superseded; decide) 3 _
  · exact ((stale_responses_are_inert {} [⟨0, .navigate .functions⟩] ⟨1, .togglePalette⟩
      [⟨2, .togglePalette⟩] [⟨3, .togglePalette⟩]).2.2 ⟨⟨.palette, 1⟩, .listFunctions 100 0⟩
      (by decide)).2 (by unfold Superseded; decide) 4 _

end Console

end FunctionConsole
