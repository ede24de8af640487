import FunctionConsole.Proofs.Run

/-!
# The end of a session

When the server has ended the session, everything that is still on its way is refused: what the
screen has asked for, and what the open palette has. The refusals come in any order, and each of
them may be the first to tell.

A refusal for the screen opens the login screen and leaves the palette as it is; one for the palette
closes the palette first (`Refusal.after_of_view`, `Refusal.after_of_palette`). So a refusal for the
screen makes those for the screen stale but not the one for the palette, which then tells once more
of what has been told. `expired_session_reports` is what all of them together come to.
-/

namespace FunctionConsole

open Console (Input Outcome isExpiry start)

-- ==================================================== calls of the palette

/-- All that the palette asks for is functions. -/
def AsksFunctions (sent : List Call) : Prop :=
  ∀ call ∈ sent, call.ticket.scope = .palette → ∃ limit, call.request = .listFunctions limit 0

namespace Console

/-- Calls of the screen are no calls of the palette. -/
theorem calls_asksFunctions (c : Console) (requests : List Request) :
    AsksFunctions (c.calls requests) := by
  intro call hcall hscope
  obtain ⟨r, -, rfl⟩ := List.mem_map.mp hcall
  cases hscope

/-- Starting up asks for nothing in the name of the palette. -/
theorem startup_asksFunctions (c : Console) (route : Route) (apiKey : Option String) :
    AsksFunctions (c.startup route apiKey).2.calls := by
  unfold startup
  split
  · exact calls_asksFunctions _ _
  · split
    · exact calls_asksFunctions _ _
    · exact fun _ hcall => by cases hcall

/-- The palette asks when it opens, for functions. -/
theorem Outcome.asksFunctions {c c' : Console} {now : Moment} {m : Message} {calls : List Call}
    (h : Outcome c now m c' calls) : AsksFunctions calls := by
  cases h with
  | idle | declined _ _ | searched _ _ => exact fun _ hcall => by cases hcall
  | opened _ _ =>
      intro call hcall _
      obtain rfl := List.mem_singleton.mp hcall
      exact ⟨_, rfl⟩
  | loggedOut _ _ => exact calls_asksFunctions { c with generation := c.generation + 1 } [.logout]
  | _ => exact calls_asksFunctions _ _

/-- All along some turns, all that the palette asks for is functions. -/
theorem asksFunctions_turns {c : Console} {inputs : List Input}
    (hexternal : ∀ i ∈ inputs, i.message.IsExternal) :
    AsksFunctions ((c.turns inputs).flatMap Turn.calls) := by
  induction inputs generalizing c with
  | nil => exact fun _ hcall => by cases hcall
  | cons i rest ih =>
      intro call hcall
      rw [turns, List.flatMap_cons] at hcall
      rcases List.mem_append.mp hcall with h | h
      · exact (Turn.outcome (t := ⟨c, i⟩) (hexternal i (by simp))).asksFunctions call h
      · exact ih (fun j hj => hexternal j (by simp [hj])) call h

/-- In every run, all that the palette asks for is functions. -/
theorem asksFunctions_run (settings : Settings) (now : Moment) (route : Route)
    (apiKey : Option String) {inputs : List Input}
    (hexternal : ∀ i ∈ inputs, i.message.IsExternal) :
    AsksFunctions
      (((start settings).turns (⟨now, .startup route apiKey⟩ :: inputs)).flatMap Turn.calls) := by
  intro call hcall
  rw [turns, List.flatMap_cons, Turn.calls_startup rfl] at hcall
  rcases List.mem_append.mp hcall with h | h
  · exact startup_asksFunctions _ _ _ call h
  · exact asksFunctions_turns hexternal call h

end Console

-- ==================================================== refusals

/-- A response to a call, and the moment at which it comes. -/
structure Refusal where
  now : Moment
  call : Call
  response : Response

namespace Refusal

/-- The message that a refusal is. -/
def input (r : Refusal) : Input := ⟨r.now, .api r.call.ticket r.response⟩

/-- Whether a refusal is for the palette. -/
def isPalette (r : Refusal) : Bool := r.call.ticket.scope == .palette

theorem scope_of_isPalette {r : Refusal} (h : r.isPalette = true) :
    r.call.ticket.scope = .palette := eq_of_beq h

theorem scope_of_not_isPalette {r : Refusal} (h : r.isPalette = false) :
    r.call.ticket.scope = .view := by
  cases hscope : r.call.ticket.scope with
  | view => rfl
  | palette => simp [isPalette, hscope] at h

/-- A call has been refused because the session is gone. It is one that takes a session: neither a
login nor the word that the session has ended. -/
structure Unauthorized (r : Refusal) : Prop where
  data : (∀ apiKey, r.call.request ≠ .login apiKey) ∧ r.call.request ≠ .logout
  answered : r.call.request.Answered r.response
  unauthorized : r.response.error?.any ApiError.isUnauthorized = true

/-- Such a refusal is taken for the end of the session. -/
theorem Unauthorized.isExpiry {r : Refusal} (h : r.Unauthorized) : isExpiry r.response = true := by
  have hkind : ∀ result, r.response ≠ .loggedIn result := by
    intro result heq
    obtain ⟨b, hb⟩ := heq ▸ h.answered
    cases hrequest : r.call.request <;> rw [hrequest] at hb <;> cases hb
    exact h.data.1 _ hrequest
  have herror := h.unauthorized
  unfold Console.isExpiry
  split
  · next result heq => exact absurd heq (hkind result)
  · exact herror

/-- Such a refusal is not the word that the session has ended. -/
theorem Unauthorized.not_loggedOut {r : Refusal} (h : r.Unauthorized)
    (result : ApiError.Result Unit) : r.response ≠ .loggedOut result := by
  intro heq
  obtain ⟨b, hb⟩ := heq ▸ h.answered
  cases hrequest : r.call.request <;> rw [hrequest] at hb <;> cases hb
  exact h.data.2 hrequest

section

variable {c : Console} {r : Refusal}

/-- A refusal whose ticket is not current changes nothing. -/
theorem after_of_not_current (h : ¬ c.Current r.call.ticket) : Turn.after ⟨c, r.input⟩ = c := by
  rw [Turn.after, input, Console.process_api, Console.handleResponse_of_not_current h]

/-- A refusal for the screen opens the login screen underneath whatever there is. -/
theorem after_of_view (h : r.Unauthorized) (hcurrent : c.Current r.call.ticket)
    (hview : r.isPalette = false) : Turn.after ⟨c, r.input⟩ = (c.sessionExpired r.now).1 := by
  have hticket : r.call.ticket = c.ticket := by
    obtain ⟨now, ⟨⟨scope, generation⟩, request⟩, response⟩ := r
    cases scope with
    | view => exact congrArg (Ticket.mk .view) hcurrent
    | palette => cases hview
  have hexpired : c.viewResponse r.now r.response = c.sessionExpired r.now := by
    have hkind := h.not_loggedOut
    simp only [Console.viewResponse, h.isExpiry, if_true]
  rw [Turn.after, input, Console.process_api, hticket, Console.handleResponse_current, hexpired]

/-- A refusal for the palette closes the palette and opens the login screen. -/
theorem after_of_palette (h : r.Unauthorized) (hcurrent : c.Current r.call.ticket)
    (hpalette : r.isPalette = true) {limit : UInt64}
    (hrequest : r.call.request = .listFunctions limit 0) :
    Turn.after ⟨c, r.input⟩ = ({ c with palette := c.palette.close }.sessionExpired r.now).1 := by
  obtain ⟨page, result, hresponse⟩ : ∃ page result, r.response = .functions page result := by
    obtain ⟨b, hb⟩ := h.answered
    rw [hrequest] at hb
    exact ⟨_, _, hb.symm⟩
  have herror := h.unauthorized
  rw [hresponse] at herror
  cases result with
  | ok list => cases herror
  | error e =>
      have hunauthorized : e.isUnauthorized = true := herror
      obtain ⟨now, ⟨⟨scope, generation⟩, request⟩, response⟩ := r
      cases scope with
      | view => cases hpalette
      | palette =>
          obtain ⟨hopen, hgeneration⟩ := hcurrent
          dsimp only at hopen hgeneration hresponse
          rw [Turn.after, input, Console.process_api]
          simp [Console.handleResponse, hopen, hgeneration, hresponse, Console.paletteResponse,
            hunauthorized]

end

end Refusal

-- ==================================================== all refusals together

namespace Console

section

variable {c : Console} {refusals : List Refusal}

/-- Refusals none of which is current change nothing. -/
theorem through_of_not_current (h : ∀ r ∈ refusals, ¬ c.Current r.call.ticket) :
    c.through (refusals.map Refusal.input) = c := by
  induction refusals with
  | nil => rfl
  | cons r rest ih =>
      rw [List.map_cons, through, Refusal.after_of_not_current (h r (by simp))]
      exact ih fun r' hr' => h r' (by simp [hr'])

/-- Once the session is known to be gone, no ticket of an earlier screen is current, and one of the
palette is only as long as that stays open. -/
theorem not_current_of_sessionExpired {now : Moment} {t : Ticket}
    (hview : t.scope = .view → t.generation ≤ c.generation)
    (hpalette : t.scope = .palette → c.palette.isOpen = false) :
    ¬ (c.sessionExpired now).1.Current t := by
  obtain ⟨scope, generation⟩ := t
  cases scope with
  | view =>
      intro heq
      have hle := hview rfl
      exact absurd heq (Nat.ne_of_lt (Nat.lt_succ_of_le hle))
  | palette =>
      rintro ⟨hopen, -⟩
      exact absurd (hopen.symm.trans (hpalette rfl)) (by simp)

/-- Refusals after the session is known to be gone: those for the screen are stale, and the first
one for the palette tells of it once more. -/
theorem through_of_stale_view (hrefused : ∀ r ∈ refusals, r.Unauthorized)
    (hview : ∀ r ∈ refusals, r.isPalette = false → r.call.ticket.generation < c.generation)
    (hpalette : ∀ r ∈ refusals, r.isPalette = true → c.Current r.call.ticket ∧
      ∃ limit, r.call.request = .listFunctions limit 0) :
    c.through (refusals.map Refusal.input) =
      match refusals.find? Refusal.isPalette with
      | none => c
      | some r => ({ c with palette := c.palette.close }.sessionExpired r.now).1 := by
  induction refusals with
  | nil => rfl
  | cons r rest ih =>
      rw [List.map_cons, through]
      cases hscope : r.isPalette with
      | false =>
          have hstale : ¬ c.Current r.call.ticket := by
            rw [Current, Refusal.scope_of_not_isPalette hscope]
            exact Nat.ne_of_lt (hview r (by simp) hscope)
          rw [Refusal.after_of_not_current hstale, List.find?_cons_of_neg (by simp [hscope])]
          exact ih (fun r' hr' => hrefused r' (by simp [hr']))
            (fun r' hr' => hview r' (by simp [hr'])) fun r' hr' => hpalette r' (by simp [hr'])
      | true =>
          obtain ⟨hcurrent, limit, hrequest⟩ := hpalette r (by simp) hscope
          rw [Refusal.after_of_palette (hrefused r (by simp)) hcurrent hscope hrequest,
            List.find?_cons_of_pos (by simp [hscope])]
          refine through_of_not_current fun r' hr' => not_current_of_sessionExpired (fun h => ?_)
            fun _ => rfl
          exact Nat.le_of_lt (hview r' (by simp [hr']) (by simp [Refusal.isPalette, h]))

/-- What refusals come to, all of them of calls that were still to be answered. If the first one is
for the palette it is all that counts; if it is for the screen, so is the first one for the
palette. -/
theorem through_of_current {first : Refusal} {rest : List Refusal}
    (hrefused : ∀ r ∈ first :: rest, r.Unauthorized)
    (hcurrent : ∀ r ∈ first :: rest, c.Current r.call.ticket)
    (hfunctions : ∀ r ∈ first :: rest, r.isPalette = true →
      ∃ limit, r.call.request = .listFunctions limit 0) :
    c.through ((first :: rest).map Refusal.input) =
      if first.isPalette then ({ c with palette := c.palette.close }.sessionExpired first.now).1
      else match rest.find? Refusal.isPalette with
        | none => (c.sessionExpired first.now).1
        | some r =>
          ({ (c.sessionExpired first.now).1 with palette := c.palette.close }.sessionExpired
            r.now).1 := by
  have hgeneration : ∀ r ∈ rest, r.isPalette = false → r.call.ticket.generation = c.generation := by
    intro r hr hscope
    have := hcurrent r (by simp [hr])
    rwa [Current, Refusal.scope_of_not_isPalette hscope] at this
  rw [List.map_cons, through]
  cases hscope : first.isPalette with
  | true =>
      obtain ⟨limit, hrequest⟩ := hfunctions first (by simp) hscope
      rw [Refusal.after_of_palette (hrefused first (by simp)) (hcurrent first (by simp)) hscope
        hrequest, if_pos rfl]
      refine through_of_not_current fun r hr => not_current_of_sessionExpired (fun h => ?_)
        fun _ => rfl
      exact Nat.le_of_eq (hgeneration r hr (by simp [Refusal.isPalette, h]))
  | false =>
      rw [Refusal.after_of_view (hrefused first (by simp)) (hcurrent first (by simp)) hscope,
        if_neg (by simp)]
      refine through_of_stale_view (fun r hr => hrefused r (by simp [hr])) (fun r hr h => ?_)
        fun r hr h => ⟨?_, hfunctions r (by simp [hr]) h⟩
      · exact Nat.lt_succ_of_le (Nat.le_of_eq (hgeneration r hr h))
      · have hbefore := hcurrent r (by simp [hr])
        rw [Current, Refusal.scope_of_isPalette h] at hbefore ⊢
        exact hbefore

end

/-- The end of the session told once is one more toast. -/
theorem sessionExpired_toasts (c : Console) (now : Moment) : ∃ toast : Toast,
    (c.sessionExpired now).1.toasts.items = c.toasts.items ++ [toast] ∧
      toast.message = "Session expired. Please log in again." ∧ toast.kind = .error :=
  ⟨_, rfl, rfl, rfl⟩

/-- The end of the session, found out by any number of refusals in any order. After every run, take
calls that have gone out and whose tickets are current, and let all of them be refused because the
session is gone. The login screen is left, fresh and without a question. The palette is shut, unless
it was open and none of its own calls was among them. The end of the session has been told once,
except if a refusal for the screen came first and one for the palette after it: then it has been
told twice. -/
theorem expired_session_reports (settings : Settings) (now : Moment) (route : Route)
    (apiKey : Option String) {inputs : List Input}
    (hexternal : ∀ i ∈ inputs, i.message.IsExternal) (first : Refusal) (rest : List Refusal) :
    let run := ⟨now, .startup route apiKey⟩ :: inputs
    let c := (start settings).through run
    let last := c.through ((first :: rest).map Refusal.input)
    (∀ r ∈ first :: rest, r.call ∈ ((start settings).turns run).flatMap Turn.calls ∧
      c.Current r.call.ticket ∧ r.Unauthorized) →
    last.route = .login ∧ last.screen = .login { redirect := .functions } ∧ last.confirm = none ∧
      (last.palette.isOpen = true ↔
        c.palette.isOpen = true ∧ ∀ r ∈ first :: rest, r.isPalette = false) ∧
      ∃ new, last.toasts.items = c.toasts.items ++ new ∧
        (∀ toast ∈ new,
          toast.message = "Session expired. Please log in again." ∧ toast.kind = .error) ∧
        new.length = if !first.isPalette && rest.any Refusal.isPalette then 2 else 1 := by
  intro run c last h
  have hfunctions : ∀ r ∈ first :: rest, r.isPalette = true →
      ∃ limit, r.call.request = .listFunctions limit 0 := fun r hr hscope =>
    asksFunctions_run settings now route apiKey hexternal r.call (h r hr).1
      (Refusal.scope_of_isPalette hscope)
  have hlast : last = _ :=
    through_of_current (fun r hr => (h r hr).2.2) (fun r hr => (h r hr).2.1) hfunctions
  cases hscope : first.isPalette with
  | true =>
      rw [hscope, if_pos rfl] at hlast
      obtain ⟨toast, htoasts, htold⟩ :=
        sessionExpired_toasts { c with palette := c.palette.close } first.now
      rw [hlast]
      exact ⟨rfl, rfl, rfl, ⟨fun hopen => (by cases hopen), fun hall => by simp [hscope] at hall⟩,
        [toast], htoasts, by simpa using htold, rfl⟩
  | false =>
      obtain ⟨toast, htoasts, htold⟩ := sessionExpired_toasts c first.now
      rw [hscope, if_neg (by simp)] at hlast
      cases hfind : rest.find? Refusal.isPalette with
      | none =>
          have hnone := List.find?_eq_none.mp hfind
          rw [hfind] at hlast
          rw [hlast]
          refine ⟨rfl, rfl, rfl, ⟨fun hopen => ⟨hopen, ?_⟩, fun hall => hall.1⟩, [toast], htoasts,
            by simpa using htold, ?_⟩
          · simpa [hscope] using hnone
          · have hany : rest.any Refusal.isPalette = false := by simpa using hnone
            simp [hany]
      | some r =>
          obtain ⟨toast', htoasts', htold'⟩ := sessionExpired_toasts
            { (c.sessionExpired first.now).1 with palette := c.palette.close } r.now
          have hmem := List.mem_of_find?_eq_some hfind
          have hpalette := List.find?_some hfind
          rw [hfind] at hlast
          rw [hlast]
          refine ⟨rfl, rfl, rfl, ⟨fun hopen => (by cases hopen), fun hall => ?_⟩,
            [toast, toast'], ?_, by simp [htold, htold'], ?_⟩
          · rw [hall.2 r (by simp [hmem])] at hpalette
            cases hpalette
          · rw [htoasts', show (c.sessionExpired first.now).1.toasts.items = _ from htoasts]
            simp
          · have hany : rest.any Refusal.isPalette = true :=
              List.any_eq_true.mpr ⟨r, hmem, hpalette⟩
            simp [hany]

end Console

-- ==================================================== behind the palette

namespace BehindPalette

/-- The palette opens in front of the functions, before either of the two has what it asked for. -/
def inputs : List Input :=
  [⟨1, .api ⟨.view, 1⟩ (.loggedIn (.ok ()))⟩, ⟨2, .key (.ctrl 'k')⟩]

/-- The state that is left then. -/
def console : Console := (start {}).through (⟨0, .startup .functions (some "secret")⟩ :: inputs)

/-- The screen's request for functions is refused. -/
def ofScreen : Refusal :=
  ⟨3, ⟨⟨.view, 2⟩, .listFunctions 20 0⟩, .functions ⟨20, 0⟩ (.error (.status 401 "unauthorized"))⟩

/-- The palette's request for functions is refused. -/
def ofPalette : Refusal :=
  ⟨4, ⟨⟨.palette, 1⟩, .listFunctions 100 0⟩,
    .functions ⟨100, 0⟩ (.error (.status 401 "unauthorized"))⟩

theorem external : ∀ i ∈ inputs, i.message.IsExternal := by
  simp [inputs, Message.IsExternal]

/-- Both requests have gone out and are still to be answered. -/
theorem outstanding (r : Refusal) (h : r = ofScreen ∨ r = ofPalette) :
    r.call ∈ ((start {}).turns (⟨0, .startup .functions (some "secret")⟩ :: inputs)).flatMap
        Turn.calls ∧
      console.Current r.call.ticket ∧ r.Unauthorized := by
  rcases h with rfl | rfl
  · exact ⟨by decide +kernel, show 2 = console.generation by decide +kernel,
      ⟨by simp [ofScreen], by simp [ofScreen]⟩, ⟨refusingServer _, rfl⟩, rfl⟩
  · exact ⟨by decide +kernel,
      show console.palette.isOpen = true ∧ 1 = console.palette.generation by decide +kernel,
      ⟨by simp [ofPalette], by simp [ofPalette]⟩, ⟨refusingServer _, rfl⟩, rfl⟩

end BehindPalette

namespace Console

open BehindPalette

/-- The end of the session is not told once whatever the order: with the refusal for the screen
first, and the one for the palette after it, it is told twice. -/
theorem expiry_told_twice :
    console.route ≠ .login ∧
      (∀ r ∈ [ofScreen, ofPalette], console.Current r.call.ticket ∧ r.Unauthorized) ∧
      ¬ ∀ refusals : List Refusal, refusals.Perm [ofScreen, ofPalette] →
        let last := console.through (refusals.map Refusal.input)
        last.route = .login ∧ last.screen = .login { redirect := .functions } ∧
          last.palette.isOpen = false ∧
          last.toasts.items.length = console.toasts.items.length + 1 := by
  refine ⟨by decide +kernel, fun r hr => (outstanding r (by simpa using hr)).2, fun hall => ?_⟩
  obtain ⟨-, -, -, htoasts⟩ := hall [ofScreen, ofPalette] (.refl _)
  exact absurd htoasts (by decide +kernel)

/-- The same two refusals in both orders: the end of the session is told twice, and once. -/
theorem expiry_reports_by_order :
    (console.through ([ofScreen, ofPalette].map Refusal.input)).toasts.items.length =
        console.toasts.items.length + 2 ∧
      (console.through ([ofPalette, ofScreen].map Refusal.input)).toasts.items.length =
        console.toasts.items.length + 1 := by
  obtain ⟨-, -, -, -, twice, htwice, -, htwo⟩ := expired_session_reports {} 0 .functions
    (some "secret") external ofScreen [ofPalette] fun r hr => outstanding r (by simpa using hr)
  obtain ⟨-, -, -, -, once, honce, -, hone⟩ := expired_session_reports {} 0 .functions
    (some "secret") external ofPalette [ofScreen] fun r hr =>
      outstanding r (by simpa [or_comm] using hr)
  refine ⟨?_, ?_⟩
  · exact (congrArg List.length htwice).trans (by rw [List.length_append, htwo]; rfl)
  · exact (congrArg List.length honce).trans (by rw [List.length_append, hone]; rfl)

end Console

end FunctionConsole
