import FunctionConsole.Proofs.Confirmation
import FunctionConsole.Proofs.Subject

/-!
# Changes and the function on screen

What a screen changes or calls is the function that its address names. `Grounded` is why: the screen
is about that function, and so is the question that waits. It also names the two ways around it. The
question whether to delete names the function that the server has told the screen of, and a start
with a key to log in with opens the login screen and leaves the question of the screen before it.

One turn keeps a console grounded (`Outcome.grounded`, `grounded_startup`), by induction every run
does, and `changes_name_shown_function` reads off what goes out.
-/

namespace FunctionConsole

open Console (Input Outcome mutationRequest start)

/-- A message that comes from outside, at the start of a run or later. -/
def Message.IsOutside : Message → Prop
  | .startup _ _ => True
  | m => m.IsExternal

-- ==================================================== what has come before

/-- In one of some turns the server told the screen of a generation of a function. -/
def Told (generation : Nat) (f : Function) (turns : List Turn) : Prop :=
  ∃ t ∈ turns, t.before.generation = generation ∧
    t.input.message = .api t.before.ticket (.function (.ok f))

/-- In one of some turns the console was started anew, and came to the login screen of a generation
with a question that had been waiting before. -/
def Carried (generation : Nat) (d : Dialog) (turns : List Turn) : Prop :=
  ∃ t ∈ turns, (∃ route apiKey, t.input.message = .startup route apiKey) ∧
    t.before.confirm = some d ∧ t.after.confirm = some d ∧ t.after.route = .login ∧
    t.after.generation = generation

/-- More turns do not matter. -/
theorem Told.append {generation : Nat} {f : Function} {past : List Turn}
    (h : Told generation f past) (future : List Turn) : Told generation f (past ++ future) := by
  obtain ⟨t, ht, htold⟩ := h
  exact ⟨t, List.mem_append_left _ ht, htold⟩

/-- More turns do not matter. -/
theorem Carried.append {generation : Nat} {d : Dialog} {past : List Turn}
    (h : Carried generation d past) (future : List Turn) :
    Carried generation d (past ++ future) := by
  obtain ⟨t, ht, hcarried⟩ := h
  exact ⟨t, List.mem_append_left _ ht, hcarried⟩

namespace Console

/-- What a question may be about: the function of the address, a deletion of one that the server has
told of, or, on the login screen, whatever it was about when it was left behind there. -/
def Justified (past : List Turn) (c : Console) (d : Dialog) : Prop :=
  c.route.functionId? = some d.onConfirm.target ∨
    (∃ f, Told c.generation f past ∧ d.onConfirm = .deleteFunction f.id) ∨
    c.route = .login ∧ Carried c.generation d past

/-- The screen is about the function of its address, what it shows of a function has been told, and
the question that waits is justified. -/
structure Grounded (past : List Turn) (c : Console) : Prop where
  subject : c.screen.subject? = c.route.functionId?
  function : ∀ f, c.screen.function? = some f → Told c.generation f past
  question : ∀ d, c.confirm = some d → Justified past c d

section

variable {past : List Turn} {c c' : Console} {now : Moment} {m : Message} {calls : List Call}

/-- More turns do not matter. -/
theorem Justified.append {d : Dialog} (h : Justified past c d) (future : List Turn) :
    Justified (past ++ future) c d := by
  rcases h with hroute | ⟨f, htold, hdelete⟩ | ⟨hlogin, hcarried⟩
  · exact .inl hroute
  · exact .inr (.inl ⟨f, htold.append future, hdelete⟩)
  · exact .inr (.inr ⟨hlogin, hcarried.append future⟩)

/-- More turns do not matter. -/
theorem Grounded.append (h : Grounded past c) (future : List Turn) :
    Grounded (past ++ future) c :=
  ⟨h.subject, fun f hf => (h.function f hf).append future,
    fun d hd => (h.question d hd).append future⟩

/-- A fresh screen is about the function of its address, shows none, and has no question. -/
theorem grounded_enter (past : List Turn) (c : Console) (route : Route) :
    Grounded past (c.enter route).1 := by
  obtain ⟨hsubject, hfunction, -⟩ := Screen.ofRoute_subject c.screenContext route
  refine ⟨hsubject, fun f hf => ?_, fun d hd => by cases hd⟩
  have hnone : (c.enter route).1.screen.function? = none := hfunction
  rw [hnone] at hf
  cases hf

/-- A login screen is about no function and shows none. -/
theorem grounded_login (past : List Turn) (c : Console) (s : LoginScreen) (generation : Nat)
    {confirm : Option Dialog} (hconfirm : ∀ d, confirm = some d → Carried generation d past) :
    Grounded past { c with generation, confirm, screen := .login s, route := .login } :=
  ⟨rfl, fun _ hf => (by cases hf), fun d hd => .inr (.inr ⟨rfl, hconfirm d hd⟩)⟩

/-- A start leaves the console grounded; the question that waits is carried to the login screen. -/
theorem grounded_startup {t : Turn} {route : Route} {apiKey : Option String}
    (hmessage : t.input.message = .startup route apiKey) :
    Grounded (past ++ [t]) t.after := by
  have hcarried : ∀ s generation,
      t.after = { t.before with generation, screen := .login s, route := .login } →
      Grounded (past ++ [t]) t.after := by
    intro s generation hafter
    have hquestion : ∀ d, t.before.confirm = some d → Carried generation d (past ++ [t]) := by
      intro d hd
      exact ⟨t, by simp, ⟨route, apiKey, hmessage⟩, hd, by rw [hafter]; exact hd, by rw [hafter],
        by rw [hafter]⟩
    rw [hafter]
    exact grounded_login _ t.before s generation hquestion
  have hafter := Turn.after_startup hmessage
  unfold startup at hafter
  split at hafter
  · exact hcarried _ _ hafter
  · split at hafter
    · rw [hafter]
      exact grounded_enter _ t.before route
    · rw [hafter]
      exact grounded_login _ t.before _ _ fun d hd => by cases hd

/-- One turn keeps the console grounded. -/
theorem Outcome.grounded (h : Outcome c now m c' calls) (hc : Grounded past c) :
    Grounded (past ++ [⟨c, now, m⟩]) c' := by
  have hlater := hc.append [⟨c, now, m⟩]
  cases h with
  | idle | searched _ _ | opened _ _ => exact ⟨hlater.subject, hlater.function, hlater.question⟩
  | accepted _ _ | declined _ _ => exact ⟨hlater.subject, hlater.function, fun _ hd => by cases hd⟩
  | worked _ _ hscreen _ =>
      obtain ⟨hkeeps, habout⟩ := Screen.handleKey_about hscreen
      refine ⟨hkeeps.subject.trans hc.subject, fun f hf => ?_, fun d hd => ?_⟩
      · exact hlater.function f (hkeeps.function.symm.trans hf)
      · rcases habout.questions d hd with hsubject | ⟨f, hf, hdelete⟩
        · exact .inl (hc.subject.symm.trans hsubject)
        · exact .inr (.inl ⟨f, hlater.function f hf, hdelete⟩)
  | @received response _ _ _ =>
      have hheeds := c.screen.handleResponse_heeds response
      refine ⟨hheeds.subject.trans hc.subject, fun f hf => ?_, hlater.question⟩
      rcases Screen.function?_of_handleResponse hf with hbefore | rfl
      · exact hlater.function f hbefore
      · exact ⟨_, List.mem_append_right _ (List.mem_singleton_self _), rfl, rfl⟩
  | loggedOut _ _ => exact grounded_enter _ _ .login
  | _ => exact grounded_enter _ _ _

/-- The request that makes a change names the function that the change is made to. -/
theorem target?_mutationRequest (m : Mutation) : (mutationRequest m).target? = some m.target := by
  cases m <;> rfl

/-- What a change in a turn names: the function of the address, which stays, or what the question
that was answered with yes was about. -/
theorem Outcome.target_cases (h : Outcome c now m c' calls) (hc : Grounded past c) {call : Call}
    (hcall : call ∈ calls) {id : String} (hid : call.request.target? = some id) :
    c'.route = c.route ∧ (c.route.functionId? = some id ∨
      ∃ key d, m = .key key ∧ key.isYes = true ∧ c.confirm = some d ∧ d.onConfirm.target = id ∧
        call.request = mutationRequest d.onConfirm) := by
  have hcalls {c : Console} {requests : List Request} (h : call ∈ c.calls requests) :
      call.request ∈ requests := by
    obtain ⟨r, hr, rfl⟩ := List.mem_map.mp h
    exact hr
  have hentered {c : Console} {route : Route} (h : call ∈ (c.enter route).2) : False := by
    obtain ⟨-, -, hrequests⟩ := Screen.ofRoute_subject c.screenContext route
    rw [(hrequests _ (hcalls h)).1] at hid
    cases hid
  cases h with
  | idle | declined _ _ | searched _ _ => cases hcall
  | accepted hyes hdialog =>
      have hrequest := List.mem_singleton.mp (hcalls hcall)
      refine ⟨rfl, .inr ⟨_, _, rfl, hyes, hdialog, ?_, hrequest⟩⟩
      rw [hrequest, target?_mutationRequest] at hid
      exact Option.some.inj hid
  | opened _ _ =>
      obtain rfl := List.mem_singleton.mp hcall
      cases hid
  | loggedOut _ _ =>
      obtain rfl := List.mem_singleton.mp hcall
      cases hid
  | worked _ _ hscreen _ =>
      obtain ⟨-, habout⟩ := Screen.handleKey_about hscreen
      exact ⟨rfl, .inl (hc.subject.symm.trans (habout.targets _ (hcalls hcall) id hid))⟩
  | @received response _ _ _ =>
      have huntargeted := (c.screen.handleResponse_heeds response).untargeted
      rw [huntargeted _ (hcalls hcall)] at hid
      cases hid
  | _ => exact (hentered hcall).elim

/-- Starting up changes no function and calls none. -/
theorem startup_untargeted (c : Console) (route : Route) (apiKey : Option String) :
    ∀ call ∈ (c.startup route apiKey).2.calls, call.request.target? = none := by
  intro call hcall
  unfold startup at hcall
  split at hcall
  · obtain ⟨r, hr, rfl⟩ := List.mem_map.mp hcall
    have habout : ∀ id, r.target? = some id → none = some id :=
      (@LoginScreen.submit_about none none _).targets r hr
    cases htarget : r.target? with
    | none => rfl
    | some id => cases habout id htarget
  · split at hcall
    · obtain ⟨r, hr, rfl⟩ := List.mem_map.mp hcall
      obtain ⟨-, -, hrequests⟩ := Screen.ofRoute_subject c.screenContext route
      exact (hrequests r hr).1
    · cases hcall

end

-- ==================================================== runs of turns

/-- Every run leaves the console grounded in the turns of the run. -/
theorem grounded_through {past : List Turn} {c : Console} {inputs : List Input}
    (hc : Grounded past c) (houtside : ∀ i ∈ inputs, i.message.IsOutside) :
    Grounded (past ++ c.turns inputs) (c.through inputs) := by
  induction inputs generalizing past c with
  | nil => rwa [turns, through, List.append_nil]
  | cons i rest ih =>
      have hafter : Grounded (past ++ [⟨c, i⟩]) (Turn.after ⟨c, i⟩) := by
        have hi := houtside i (by simp)
        cases hmessage : i.message with
        | startup route apiKey => exact grounded_startup hmessage
        | key _ | tick | api _ _ =>
            exact (Turn.outcome (t := ⟨c, i⟩) (by rw [hmessage]; trivial)).grounded hc
        | _ =>
            rw [hmessage] at hi
            cases hi
      have hlast := ih hafter fun j hj => houtside j (by simp [hj])
      rwa [List.append_assoc] at hlast

/-- Before the first message nothing is shown and nothing is asked. -/
theorem grounded_start (settings : Settings) : Grounded [] (start settings) :=
  grounded_login [] (start settings) { redirect := .functions } 0 fun _ hd => by cases hd

/-- What is changed or called is the function on screen, with two exceptions. In every run, with
starts anywhere in it and whatever the server says, the address stays while such a request goes out,
and the request names the function of that address; or it is a deletion of a function that the
server has told the screen of, which may be another one; or it is the answer to a question on the
login screen, which a start with a key to log in with has left there. -/
theorem changes_name_shown_function (settings : Settings) {inputs : List Input}
    (houtside : ∀ i ∈ inputs, i.message.IsOutside) {past future : List Turn} {t : Turn}
    (hcut : (start settings).turns inputs = past ++ t :: future) {call : Call}
    (hcall : call ∈ t.calls) {id : String} (hid : call.request.target? = some id) :
    t.after.route = t.before.route ∧
      (t.before.route.functionId? = some id ∨
        (∃ f, f.id = id ∧ Told t.before.generation f past ∧ call.request = .deleteFunction id) ∨
        ∃ d, t.before.route = .login ∧ t.Accepts d ∧ d.onConfirm.target = id ∧
          Carried t.before.generation d past) := by
  obtain ⟨first, rest, rfl, hpast, hbefore, -, -⟩ := turns_cut hcut
  have hgrounded : Grounded past t.before := by
    have hthrough := grounded_through (grounded_start settings) fun i (hi : i ∈ first) =>
      houtside i (by simp [hi])
    rwa [List.nil_append, hpast, hbefore] at hthrough
  have ht := houtside t.input (by simp)
  cases hmessage : t.input.message with
  | startup route apiKey =>
      rw [Turn.calls_startup hmessage] at hcall
      rw [startup_untargeted _ _ _ call hcall] at hid
      cases hid
  | key _ | tick | api _ _ =>
      obtain ⟨hroute, hnames | ⟨key, d, hkey, hyes, hd, htarget, hrequest⟩⟩ :=
        (Turn.outcome (t := t) (by rw [hmessage]; trivial)).target_cases hgrounded hcall hid
      · exact ⟨hroute, .inl hnames⟩
      · refine ⟨hroute, ?_⟩
        rcases hgrounded.question d hd with hnames | ⟨f, htold, hdelete⟩ | ⟨hlogin, hcarried⟩
        · exact .inl (hnames.trans (congrArg some htarget))
        · refine .inr (.inl ⟨f, ?_, htold, ?_⟩)
          · rw [hdelete] at htarget
            exact htarget
          · rw [hdelete] at htarget
            rw [hrequest, hdelete]
            exact congrArg Request.deleteFunction htarget
        · exact .inr (.inr ⟨d, hlogin, ⟨key, hkey, hyes, hd⟩, htarget, hcarried⟩)
  | _ =>
      rw [hmessage] at ht
      cases ht

/-- A question about a function, left on the login screen by a start with a key, makes its change
there. -/
example :
    let c := (start {}).through
      [⟨0, .startup (.settings "f") (some "secret")⟩, ⟨1, .api ⟨.view, 1⟩ (.loggedIn (.ok ()))⟩,
        ⟨2, .api ⟨.view, 2⟩ (.function (.ok { (default : Function) with id := "f" }))⟩,
        ⟨3, .key .backTab⟩, ⟨4, .key .enter⟩, ⟨5, .startup .functions (some "secret")⟩]
    c.route = .login ∧
      (c.process 6 (.key (.char 'y'))).2 = [⟨⟨.view, 3⟩, .deleteFunction "f"⟩] := by
  decide +kernel

end Console

namespace MistakenFunction

/-- The settings of one function are opened, the server tells of another, and its deletion is
confirmed. -/
def inputs : List Input :=
  [⟨0, .startup (.settings "shown") (some "secret")⟩, ⟨1, .api ⟨.view, 1⟩ (.loggedIn (.ok ()))⟩,
    ⟨2, .api ⟨.view, 2⟩ (.function (.ok { (default : Function) with id := "other" }))⟩,
    ⟨3, .key .backTab⟩, ⟨4, .key .enter⟩, ⟨5, .key (.char 'y')⟩]

theorem outside : ∀ i ∈ inputs, i.message.IsOutside := by
  simp [inputs, Message.IsOutside, Message.IsExternal]

/-- The turn of the confirmation. -/
def confirmation : Turn := ⟨(start {}).through (inputs.take 5), 5, .key (.char 'y')⟩

theorem cut : (start {}).turns inputs = (start {}).turns (inputs.take 5) ++ [confirmation] := rfl

end MistakenFunction

namespace Console

open MistakenFunction

/-- Not every change goes to the function on screen: with the settings of one function on screen,
the deletion of another goes out. -/
theorem other_function_is_deleted :
    (start {}).turns inputs = (start {}).turns (inputs.take 5) ++ [confirmation] ∧
      ¬ ∀ call ∈ confirmation.calls, ∀ id, call.request.target? = some id →
        confirmation.before.route.functionId? = some id := by
  refine ⟨cut, fun hall => ?_⟩
  have hnames := hall ⟨⟨.view, 2⟩, .deleteFunction "other"⟩ (by decide +kernel) "other" rfl
  exact absurd hnames (by decide +kernel)

/-- The deletion that goes out is that of a function which the server has told of. -/
theorem other_function_was_told :
    ∃ f, f.id = "other" ∧ Told 2 f ((start {}).turns (inputs.take 5)) := by
  obtain ⟨-, hnames | ⟨f, hf, htold, -⟩ | ⟨-, hlogin, -⟩⟩ := changes_name_shown_function {} outside
    cut (show ⟨⟨.view, 2⟩, .deleteFunction "other"⟩ ∈ confirmation.calls by decide +kernel) rfl
  · exact absurd hnames (by decide +kernel)
  · have hgeneration : confirmation.before.generation = 2 := by decide +kernel
    exact ⟨f, hf, hgeneration ▸ htold⟩
  · exact absurd hlogin (by decide +kernel)

end Console

end FunctionConsole
