import FunctionConsole.Proofs.Run

/-!
# Confirmation

What destroys something, or takes a function in or out of service, goes to the server only as the
answer to a question. `Outcome.confirm_cases` is what a single turn does to the question that waits:
it is gone, it has just been raised by a key to the screen, or it goes on waiting on the same
screen. By induction over the turns the question that waits at any moment was raised on the screen
that is still shown (`asked_of_through`), and from that follows what whole runs do, in
`destructive_requests_are_confirmed`.
-/

namespace FunctionConsole

open Console (Input mutationRequest start)

/-- A question waits on the screen of a generation. -/
def Console.Awaits (c : Console) (generation : Nat) (d : Dialog) : Prop :=
  c.confirm = some d ∧ c.generation = generation

namespace Turn

/-- A key to the screen raises a question, where none was waiting. -/
structure Opens (t : Turn) (generation : Nat) (d : Dialog) : Prop where
  unasked : t.before.confirm = none
  shown : t.before.generation = generation
  raised : ∃ key screen e, t.input.message = .key key ∧
    t.before.screen.handleKey key = some (screen, e) ∧ e.confirm = some d
  awaits : t.after.Awaits generation d

/-- A question goes on waiting. -/
structure Keeps (t : Turn) (generation : Nat) (d : Dialog) : Prop where
  waits : t.before.Awaits generation d
  awaits : t.after.Awaits generation d

/-- A question is answered with yes. -/
def Accepts (t : Turn) (d : Dialog) : Prop :=
  ∃ key, t.input.message = .key key ∧ key.isYes = true ∧ t.before.confirm = some d

/-- A question is answered with no. -/
def Declines (t : Turn) : Prop :=
  ∃ key, t.input.message = .key key ∧ key.isNo = true ∧ t.before.confirm.isSome = true

/-- Another screen opens, or the same one anew. -/
def Leaves (t : Turn) : Prop := t.after.generation ≠ t.before.generation

/-- A call goes out that has to be confirmed. -/
def Sends (t : Turn) (call : Call) : Prop :=
  call ∈ t.calls ∧ call.request.needsConfirmation = true

end Turn

/-- In the last of these turns that matter, a question was raised, and it has waited ever since. -/
def Asked (generation : Nat) (d : Dialog) (turns : List Turn) : Prop :=
  ∃ early opening waiting, turns = early ++ opening :: waiting ∧ opening.Opens generation d ∧
    ∀ t ∈ waiting, t.Keeps generation d

namespace Console

-- ==================================================== harmless calls

/-- None of some calls has to be confirmed. -/
def Harmless (calls : List Call) : Prop := ∀ call ∈ calls, call.request.needsConfirmation = false

theorem nil_harmless : Harmless [] := fun _ hcall => by cases hcall

theorem calls_harmless (c : Console) {requests : List Request}
    (h : ∀ r ∈ requests, r.needsConfirmation = false) : Harmless (c.calls requests) := by
  intro call hcall
  obtain ⟨r, hr, rfl⟩ := List.mem_map.mp hcall
  exact h r hr

theorem enter_harmless (c : Console) (route : Route) : Harmless (c.enter route).2 :=
  calls_harmless _ (Screen.ofRoute_harmless _ route)

/-- Starting up asks for nothing that has to be confirmed, and leaves no question. -/
theorem startup_unasked (c : Console) (route : Route) (apiKey : Option String)
    (h : c.confirm = none) :
    Harmless (c.startup route apiKey).2.calls ∧ (c.startup route apiKey).1.confirm = none := by
  unfold startup
  split
  · exact ⟨calls_harmless _ (LoginScreen.submit_orderly _).harmless, h⟩
  · split
    · exact ⟨enter_harmless c route, rfl⟩
    · exact ⟨nil_harmless, rfl⟩

end Console

-- ==================================================== one turn

namespace Console

variable {c c' : Console} {now : Moment} {m : Message} {calls : List Call}

/-- What a turn does to the question: it is gone, it has just been raised by a key to the screen, or
it goes on waiting on the same screen. -/
theorem Outcome.confirm_cases (h : Outcome c now m c' calls) :
    c'.confirm = none ∨
      (c.confirm = none ∧ c'.generation = c.generation ∧ ∃ key screen e, m = .key key ∧
        c.screen.handleKey key = some (screen, e) ∧ e.confirm = c'.confirm) ∨
      c'.confirm = c.confirm ∧ c'.generation = c.generation := by
  cases h with
  | idle | searched _ _ | opened _ _ | received _ _ _ => exact .inr (.inr ⟨rfl, rfl⟩)
  | @worked key screen e _ huncovered hscreen _ =>
      exact .inr (.inl ⟨huncovered.1, rfl, key, screen, e, rfl, hscreen, rfl⟩)
  | _ => exact .inl rfl

/-- A call that has to be confirmed goes out only when a question is answered with yes. -/
theorem Outcome.sends_cases (h : Outcome c now m c' calls) :
    Harmless calls ∨ ∃ key d, m = .key key ∧ key.isYes = true ∧ c.confirm = some d ∧
      calls = [⟨c.ticket, mutationRequest d.onConfirm⟩] ∧ c'.confirm = none ∧
      c'.generation = c.generation := by
  cases h with
  | idle | declined _ _ | searched _ _ => exact .inl nil_harmless
  | accepted hyes hdialog => exact .inr ⟨_, _, rfl, hyes, hdialog, rfl, rfl, rfl⟩
  | opened _ _ => exact .inl (by simp [Harmless, Request.needsConfirmation])
  | loggedOut _ _ => exact .inl (by simp [logout_calls, Harmless, Request.needsConfirmation])
  | worked _ _ hscreen _ =>
      exact .inl (calls_harmless c (Screen.handleKey_orderly hscreen).harmless)
  | received _ _ _ => exact .inl (calls_harmless c (Screen.handleResponse_orderly _ _).harmless)
  | _ => exact .inl (enter_harmless _ _)

end Console

namespace Turn

variable {t : Turn}

/-- A turn that sends answers a question with yes, and sends what that question asks for alone. -/
theorem Sends.accepts {call : Call} (h : t.Sends call) (ht : t.input.message.IsExternal) :
    ∃ d, t.Accepts d ∧ t.calls = [⟨t.before.ticket, mutationRequest d.onConfirm⟩] ∧
      t.after.confirm = none ∧ ¬ t.Leaves := by
  rcases (outcome ht).sends_cases with hharmless | ⟨key, d, hkey, hyes, hd, hcalls, hnone, hgen⟩
  · have := hharmless call h.1
    rw [h.2] at this
    cases this
  · exact ⟨d, ⟨key, hkey, hyes, hd⟩, hcalls, hnone, fun hleaves => hleaves hgen⟩

/-- A no sends nothing and leaves no question. -/
theorem Declines.unasked (h : t.Declines) : t.calls = [] ∧ t.after.confirm = none := by
  obtain ⟨key, hkey, hno, hsome⟩ := h
  exact ⟨by rw [calls, hkey, Console.process_no hno hsome],
    by rw [after, hkey, Console.process_no hno hsome]⟩

/-- A screen that is left takes its question along. -/
theorem Leaves.unasked (h : t.Leaves) (ht : t.input.message.IsExternal) :
    t.after.confirm = none := by
  rcases (outcome ht).confirm_cases with hnone | ⟨-, hgen, -⟩ | ⟨-, hgen⟩
  · exact hnone
  · exact absurd hgen h
  · exact absurd hgen h

/-- After a call that has to be confirmed, after a no, and after a screen was left, no question is
left. -/
theorem unasked_after (ht : t.input.message.IsExternal)
    (hover : (∃ call, t.Sends call) ∨ t.Declines ∨ t.Leaves) : t.after.confirm = none := by
  rcases hover with ⟨call, hsends⟩ | hdeclines | hleaves
  · obtain ⟨_, -, -, hnone, -⟩ := hsends.accepts ht
    exact hnone
  · exact hdeclines.unasked.2
  · exact hleaves.unasked ht

/-- Neither a no nor leaving a screen sends anything that has to be confirmed. -/
theorem not_sends (ht : t.input.message.IsExternal) (hover : t.Declines ∨ t.Leaves) (call : Call) :
    ¬ t.Sends call := by
  intro hsends
  obtain ⟨_, -, hcalls, -, hstays⟩ := hsends.accepts ht
  rcases hover with hdeclines | hleaves
  · rw [hdeclines.unasked.1] at hcalls
    cases hcalls
  · exact hstays hleaves

end Turn

-- ==================================================== runs of turns

/-- Earlier turns do not matter. -/
theorem Asked.cons {generation : Nat} {d : Dialog} {turns : List Turn}
    (h : Asked generation d turns) (t : Turn) : Asked generation d (t :: turns) := by
  obtain ⟨early, opening, waiting, rfl, hopens, hkeeps⟩ := h
  exact ⟨t :: early, opening, waiting, rfl, hopens, hkeeps⟩

namespace Console

/-- A question that waits after some turns has waited through all of them, or was raised in one of
them and has waited since. -/
theorem waited_or_asked {c : Console} {inputs : List Input} {generation : Nat} {d : Dialog}
    (hexternal : ∀ i ∈ inputs, i.message.IsExternal)
    (h : (c.through inputs).Awaits generation d) :
    (c.Awaits generation d ∧ ∀ t ∈ c.turns inputs, t.Keeps generation d) ∨
      Asked generation d (c.turns inputs) := by
  induction inputs generalizing c with
  | nil => exact .inl ⟨h, by simp [turns]⟩
  | cons i rest ih =>
      have hi : (Turn.mk c i).input.message.IsExternal := hexternal i (by simp)
      rcases ih (fun j hj => hexternal j (by simp [hj])) h with ⟨hafter, hkeeps⟩ | hasked
      · rcases (Turn.outcome hi).confirm_cases with
          hnone | ⟨hunasked, hgen, key, screen, e, hkey, hscreen, he⟩ | ⟨hconfirm, hgen⟩
        · exact absurd (hnone.symm.trans hafter.1) (by simp)
        · exact .inr ⟨[], ⟨c, i⟩, _, rfl, ⟨hunasked, hgen ▸ hafter.2,
            ⟨key, screen, e, hkey, hscreen, he.trans hafter.1⟩, hafter⟩, hkeeps⟩
        · have hbefore : c.Awaits generation d := ⟨hconfirm ▸ hafter.1, hgen ▸ hafter.2⟩
          refine .inl ⟨hbefore, fun t ht => ?_⟩
          rcases List.mem_cons.mp ht with rfl | ht
          · exact ⟨hbefore, hafter⟩
          · exact hkeeps t ht
      · exact .inr (hasked.cons _)

/-- A question that waits after some turns, with none waiting before, was raised in them. -/
theorem asked_of_through {c : Console} {inputs : List Input} {d : Dialog}
    (hexternal : ∀ i ∈ inputs, i.message.IsExternal) (hunasked : c.confirm = none)
    (h : (c.through inputs).confirm = some d) :
    Asked (c.through inputs).generation d (c.turns inputs) := by
  rcases waited_or_asked hexternal ⟨h, rfl⟩ with ⟨hwaits, -⟩ | hasked
  · exact absurd (hunasked.symm.trans hwaits.1) (by simp)
  · exact hasked

/-- What is sent after some turns, with no question waiting before them, answers a question that was
raised in them. -/
theorem asked_of_sends {c : Console} {inputs : List Input} {past future : List Turn} {t : Turn}
    {call : Call} (hexternal : ∀ i ∈ inputs, i.message.IsExternal) (hunasked : c.confirm = none)
    (hcut : c.turns inputs = past ++ t :: future) (hsends : t.Sends call) :
    ∃ d, t.Accepts d ∧ t.calls = [call] ∧
      call = ⟨t.before.ticket, mutationRequest d.onConfirm⟩ ∧ Asked t.before.generation d past := by
  obtain ⟨first, rest, rfl, hpast, hbefore, -, -⟩ := turns_cut hcut
  obtain ⟨d, haccepts, hcalls, -, -⟩ := hsends.accepts (hexternal _ (by simp))
  obtain rfl := List.mem_singleton.mp (hcalls ▸ hsends.1)
  have hwaits : (c.through first).confirm = some d := by
    obtain ⟨_, _, _, hd⟩ := haccepts
    rw [hbefore, hd]
  have hasked := asked_of_through (fun i hi => hexternal i (by simp [hi])) hunasked hwaits
  rw [hbefore, hpast] at hasked
  exact ⟨d, haccepts, hcalls, rfl, hasked⟩

/-- Starting up asks for nothing that has to be confirmed, and leaves no question. -/
theorem startup_turn_unasked {t : Turn} {route : Route} {apiKey : Option String}
    (hmessage : t.input.message = .startup route apiKey) (h : t.before.confirm = none) :
    (∀ call, ¬ t.Sends call) ∧ t.after.confirm = none := by
  obtain ⟨hharmless, hunasked⟩ := startup_unasked t.before route apiKey h
  refine ⟨fun call hsends => ?_, by rw [Turn.after_startup hmessage]; exact hunasked⟩
  have hcall := hsends.1
  rw [Turn.calls_startup hmessage] at hcall
  exact absurd hsends.2 (by simp [hharmless call hcall])

/-- What destroys something, or takes a function in or out of service, is always confirmed. In every
run, a call that does is the only one of its turn: a yes to a question that asks for exactly that
change, and that was raised by a key on the screen that has been shown ever since. After such a
call, after a no, and after a screen was left, whatever is sent later answers a question that was
raised later, so no question is ever behind two calls; and neither a no nor leaving a screen sends
anything. -/
theorem destructive_requests_are_confirmed (settings : Settings) (now : Moment) (route : Route)
    (apiKey : Option String) {inputs : List Input}
    (hexternal : ∀ i ∈ inputs, i.message.IsExternal) :
    let turns := (start settings).turns (⟨now, .startup route apiKey⟩ :: inputs)
    (∀ past t future call, turns = past ++ t :: future → t.Sends call →
      ∃ d, t.Accepts d ∧ t.calls = [call] ∧
        call = ⟨t.before.ticket, mutationRequest d.onConfirm⟩ ∧
        Asked t.before.generation d past) ∧
    (∀ past t between u future call, turns = past ++ t :: (between ++ u :: future) →
      (∃ sent, t.Sends sent) ∨ t.Declines ∨ t.Leaves → u.Sends call →
        ∃ d, u.Accepts d ∧ Asked u.before.generation d between) ∧
    ∀ past t future, turns = past ++ t :: future → t.Declines ∨ t.Leaves →
      ∀ call, ¬ t.Sends call := by
  intro turns
  have hstarted := startup_turn_unasked (t := ⟨start settings, now, .startup route apiKey⟩) rfl rfl
  refine ⟨?_, ?_, ?_⟩
  · intro past t future call hcut hsends
    rcases cons_cut hcut with ⟨rfl, -⟩ | ⟨past', rfl, hcut'⟩
    · exact absurd hsends (hstarted.1 call)
    · obtain ⟨d, haccepts, hcalls, hcall, hasked⟩ :=
        asked_of_sends hexternal hstarted.2 hcut' hsends
      exact ⟨d, haccepts, hcalls, hcall, hasked.cons _⟩
  · intro past t between u future call hcut hover hsends
    have hrest : t.after.confirm = none ∧ ∃ rest, (∀ i ∈ rest, i.message.IsExternal) ∧
        t.after.turns rest = between ++ u :: future := by
      rcases cons_cut hcut with ⟨rfl, hfuture⟩ | ⟨_, -, hcut'⟩
      · exact ⟨hstarted.2, inputs, hexternal, hfuture⟩
      · obtain ⟨ht, hlater⟩ := external_cut hexternal hcut'
        exact ⟨Turn.unasked_after ht hover, hlater⟩
    obtain ⟨hunasked, rest, hexternal', hcut'⟩ := hrest
    obtain ⟨d, haccepts, -, -, hasked⟩ := asked_of_sends hexternal' hunasked hcut' hsends
    exact ⟨d, haccepts, hasked⟩
  · intro past t future hcut hover call
    rcases cons_cut hcut with ⟨rfl, -⟩ | ⟨_, -, hcut'⟩
    · exact hstarted.1 call
    · exact Turn.not_sends (external_cut hexternal hcut').1 hover call

/-- A question answered with no, raised again and answered with yes: the call that goes out is
behind the second question. -/
theorem second_question_activates :
    let turns := (start {}).turns
      [⟨0, .startup (.versions "f") (some "key")⟩,
        ⟨1, .api ⟨.view, 1⟩ (.loggedIn (.ok ()))⟩,
        ⟨2, .api ⟨.view, 2⟩ (.versions ⟨20, 0⟩ (.ok ⟨[⟨7, 0, ""⟩], ⟨1, 20, 0⟩⟩))⟩,
        ⟨3, .key (.char 'a')⟩, ⟨4, .key .esc⟩, ⟨5, .key (.char 'a')⟩, ⟨6, .key .enter⟩]
    let call : Call := ⟨⟨.view, 2⟩, .activateVersion "f" 7⟩
    (∃ d t, turns[6]? = some t ∧ t.Accepts d ∧ t.calls = [call] ∧ Asked 2 d (turns.take 6)) ∧
      (∃ d t, turns[6]? = some t ∧ t.Accepts d ∧ Asked 2 d ((turns.take 6).drop 5)) ∧
      ∀ t, turns[4]? = some t → ∀ call, ¬ t.Sends call := by
  intro turns call
  have hexternal : ∀ i ∈ ([⟨1, .api ⟨.view, 1⟩ (.loggedIn (.ok ()))⟩,
      ⟨2, .api ⟨.view, 2⟩ (.versions ⟨20, 0⟩ (.ok ⟨[⟨7, 0, ""⟩], ⟨1, 20, 0⟩⟩))⟩,
      ⟨3, .key (.char 'a')⟩, ⟨4, .key .esc⟩, ⟨5, .key (.char 'a')⟩, ⟨6, .key .enter⟩] : List Input),
      i.message.IsExternal := by
    simp [Message.IsExternal]
  obtain ⟨hfirst, hlater, hnothing⟩ :=
    destructive_requests_are_confirmed {} 0 (.versions "f") (some "key") hexternal
  have hsends : (turns.get ⟨6, by decide⟩).Sends call := ⟨by decide +kernel, rfl⟩
  have hdeclines : (turns.get ⟨4, by decide⟩).Declines := ⟨.esc, rfl, rfl, by decide +kernel⟩
  have hshown : (turns.get ⟨6, by decide⟩).before.generation = 2 := by decide +kernel
  refine ⟨?_, ?_, ?_⟩
  · obtain ⟨d, haccepts, hcalls, -, hasked⟩ := hfirst (turns.take 6) _ [] call rfl hsends
    exact ⟨d, _, rfl, haccepts, hcalls, hshown ▸ hasked⟩
  · obtain ⟨d, haccepts, hasked⟩ :=
      hlater (turns.take 4) _ ((turns.take 6).drop 5) _ [] call rfl (.inr (.inl hdeclines)) hsends
    exact ⟨d, _, rfl, haccepts, hshown ▸ hasked⟩
  · intro t ht
    cases ht
    exact hnothing (turns.take 4) _ (turns.drop 5) rfl (.inl hdeclines)

end Console

end FunctionConsole
