import FunctionConsole.Proofs.Turn

/-!
# Runs

A run is a list of messages and the turns that they take, one after the other. `turns` keeps for
each of them the state it came to, so that what has happened before can be spoken of; `through` is
the state that is left in the end. `turns_cut` takes a run apart at any of its turns.
-/

namespace FunctionConsole

/-- A message from outside, followed through, and the state that it comes to. -/
structure Turn where
  before : Console
  input : Console.Input

namespace Turn

/-- The state that a turn leaves. -/
def after (t : Turn) : Console := (t.before.process t.input.now t.input.message).1

/-- The calls that go out in a turn. -/
def calls (t : Turn) : List Call := (t.before.process t.input.now t.input.message).2

/-- A message from outside has one of the outcomes that there are. -/
theorem outcome {t : Turn} (h : t.input.message.IsExternal) :
    Console.Outcome t.before t.input.now t.input.message t.after t.calls :=
  Console.outcome_of_external h t.before t.input.now

section

variable {t : Turn} {route : Route} {apiKey : Option String}

theorem after_startup (h : t.input.message = .startup route apiKey) :
    t.after = (t.before.startup route apiKey).1 := by
  rw [after, h, Console.process_startup]

theorem calls_startup (h : t.input.message = .startup route apiKey) :
    t.calls = (t.before.startup route apiKey).2.calls := by
  rw [calls, h, Console.process_startup]

end

end Turn

namespace Console

/-- The turns that messages take, one for each. -/
def turns : Console → List Input → List Turn
  | _, [] => []
  | c, i :: rest => ⟨c, i⟩ :: (Turn.after ⟨c, i⟩).turns rest

/-- The state after the turns of some messages. -/
def through : Console → List Input → Console
  | c, [] => c
  | c, i :: rest => (Turn.after ⟨c, i⟩).through rest

/-- The state after some messages and one more. -/
theorem through_concat (c : Console) (past : List Input) (i : Input) :
    c.through (past ++ [i]) = Turn.after ⟨c.through past, i⟩ := by
  induction past generalizing c with
  | nil => rfl
  | cons p past ih => exact ih _

/-- Following a message through lets nothing shrink, and what goes out in the name of a screen is
not in the name of a screen to come. -/
theorem chain_grows (now : Moment) (n : Nat) (c : Console) (m : Message) :
    Grows c (chain now n c m).1 ∧ ∀ call ∈ (chain now n c m).2, call.ticket.scope = .view →
      call.ticket.generation ≤ (chain now n c m).1.generation := by
  induction n generalizing c m with
  | zero => exact ⟨Grows.refl c, fun _ hcall => by cases hcall⟩
  | succ n ih =>
      obtain ⟨hgrows, hcurrent⟩ := update_advances c now m
      have hissued : ∀ call ∈ (c.update now m).2.calls, call.ticket.scope = .view →
          call.ticket.generation = (c.update now m).1.generation := by
        intro call hcall hview
        have := hcurrent call hcall
        rwa [Current, hview] at this
      rw [chain_succ]
      cases (c.update now m).2.next with
      | none => exact ⟨hgrows, fun call hcall hview => Nat.le_of_eq (hissued call hcall hview)⟩
      | some m' =>
          obtain ⟨hgrows', hissued'⟩ := ih (c.update now m).1 m'
          refine ⟨hgrows.trans hgrows', fun call hcall hview => ?_⟩
          rcases List.mem_append.mp hcall with h | h
          · exact hissued call h hview ▸ hgrows'.screen
          · exact hissued' call h hview

/-- Nothing goes out in the name of a screen to come. -/
theorem issued_through (c : Console) (inputs : List Input) :
    c.generation ≤ (c.through inputs).generation ∧
      ∀ call ∈ (c.turns inputs).flatMap Turn.calls, call.ticket.scope = .view →
        call.ticket.generation ≤ (c.through inputs).generation := by
  induction inputs generalizing c with
  | nil => exact ⟨Nat.le_refl _, fun _ hcall => by cases hcall⟩
  | cons i rest ih =>
      obtain ⟨hgrows, hissued⟩ := chain_grows i.now longestChain c i.message
      obtain ⟨hlater, hissued'⟩ := ih (Turn.after ⟨c, i⟩)
      refine ⟨Nat.le_trans hgrows.screen hlater, fun call hcall hview => ?_⟩
      rw [turns, List.flatMap_cons] at hcall
      rcases List.mem_append.mp hcall with h | h
      · exact Nat.le_trans (hissued call h hview) hlater
      · exact hissued' call h hview

/-- Wherever the turns are cut, the messages before and after the cut take the turns there. -/
theorem turns_cut {c : Console} {inputs : List Input} {past future : List Turn} {t : Turn}
    (h : c.turns inputs = past ++ t :: future) :
    ∃ first rest, inputs = first ++ t.input :: rest ∧ c.turns first = past ∧
      c.through first = t.before ∧ t.after.turns rest = future ∧
      t.after.through rest = c.through inputs := by
  induction past generalizing c inputs with
  | nil =>
      cases inputs with
      | nil => cases h
      | cons i rest =>
          cases h
          exact ⟨[], rest, rfl, rfl, rfl, rfl, rfl⟩
  | cons p past ih =>
      cases inputs with
      | nil => cases h
      | cons i rest =>
          obtain ⟨hp, hpast⟩ := List.cons_eq_cons.mp h
          obtain ⟨first, last, hinputs, hfirst, hbefore, hfuture, hlast⟩ := ih hpast
          refine ⟨i :: first, last, by rw [hinputs]; rfl, ?_, hbefore, hfuture, hlast⟩
          rw [← hp, ← hfirst]
          rfl

/-- Where the turns are cut at one of them, it is the first, or the rest of them are cut there. -/
theorem cons_cut {c : Console} {i : Input} {inputs : List Input} {past future : List Turn}
    {t : Turn} (h : c.turns (i :: inputs) = past ++ t :: future) :
    t = ⟨c, i⟩ ∧ t.after.turns inputs = future ∨
      ∃ past', past = ⟨c, i⟩ :: past' ∧
        (Turn.after ⟨c, i⟩).turns inputs = past' ++ t :: future := by
  cases past with
  | nil =>
      cases h
      exact .inl ⟨rfl, rfl⟩
  | cons p past =>
      obtain ⟨rfl, hpast⟩ := List.cons_eq_cons.mp h
      exact .inr ⟨past, rfl, hpast⟩

/-- Of messages from outside, the one at a cut and those that come after it are from outside. -/
theorem external_cut {c : Console} {inputs : List Input} {past future : List Turn} {t : Turn}
    (hexternal : ∀ i ∈ inputs, i.message.IsExternal) (h : c.turns inputs = past ++ t :: future) :
    t.input.message.IsExternal ∧
      ∃ rest, (∀ i ∈ rest, i.message.IsExternal) ∧ t.after.turns rest = future := by
  obtain ⟨first, rest, rfl, -, -, hfuture, -⟩ := turns_cut h
  exact ⟨hexternal _ (by simp), rest, fun i hi => hexternal i (by simp [hi]), hfuture⟩

end Console

-- ==================================================== answers

/-- A response that some server gives to a request. -/
def Request.Answered (r : Request) (response : Response) : Prop :=
  ∃ b : Backend Id, b.execute r = response

/-- A server that refuses everything. -/
def refusingServer (e : ApiError) : Backend Id where
  login _ := .error e
  logout := .error e
  listFunctions _ _ := .error e
  getFunction _ := .error e
  createFunction _ := .error e
  updateFunction _ _ := .error e
  deleteFunction _ := .error e
  updateEnv _ _ := .error e
  listVersions _ _ _ := .error e
  activateVersion _ _ := .error e
  diffVersions _ _ _ := .error e
  listExecutions _ _ _ := .error e
  getExecution _ := .error e
  executionLogs _ _ _ := .error e
  invoke _ _ := .error e

/-- A response, if the message is one, answers a call that went out. -/
def Message.Answers (m : Message) (sent : List Call) : Prop :=
  ∀ ticket response, m = .api ticket response →
    ∃ call ∈ sent, call.ticket = ticket ∧ call.request.Answered response

/-- Every response in some turns answers a call that went out before, in these turns or among the
calls given. -/
def Truthful : List Call → List Turn → Prop
  | _, [] => True
  | sent, t :: rest => t.input.message.Answers sent ∧ Truthful (sent ++ t.calls) rest

end FunctionConsole
