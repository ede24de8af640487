import FunctionConsole.Proofs.Confirmation
import FunctionConsole.Proofs.PagedList
import FunctionConsole.Proofs.Subject

/-!
# Last answers

A screen may ask for the same thing several times: for a page that it comes back to, for the
function after every change. All of these requests carry the ticket of the screen, so that their
answers are told apart by the page alone, and those for the same page not at all.

`Served` is what has happened on one screen, from its opening on, with a server that grants every
request, in whatever order. `served_kept` is the invariant along it: what is shown is the answer
that came last. `last_answer_wins` is the state once all requests have been answered, and
`earlier_request_wins` shows that the answer that came last need not be the one to the request that
went out last.
-/

namespace FunctionConsole

open Console (Input Outcome mutationRequest start)

-- ==================================================== requests and their answers

namespace Request

/-- Whether a request asks for a page of a list. -/
def asksPage (kind : ListKind) (r : Request) : Bool := (r.page? kind).isSome

/-- Whether a request asks for this page of a list. -/
def asksFor (kind : ListKind) (page : PageState) (r : Request) : Bool := r.page? kind == some page

/-- A change is no request for a page. -/
theorem page?_mutationRequest (kind : ListKind) (m : Mutation) :
    (mutationRequest m).page? kind = none := by
  cases kind <;> cases m <;> rfl

/-- A change is no request for a function. -/
theorem asksFunction_mutationRequest (m : Mutation) : (mutationRequest m).asksFunction = false := by
  cases m <;> rfl

section

variable {r : Request} {response : Response} {kind : ListKind} {page : PageState}

/-- A request for a page that is granted brings the rows of that page. -/
theorem Answered.rows (h : r.Answered response) (hok : response.error? = none)
    (hr : r.page? kind = some page) : ∃ rows, response = kind.response page (.ok rows) := by
  have hresult : ∃ result, response = kind.response page result := by
    obtain ⟨b, rfl⟩ := h
    cases kind <;> cases r <;> cases hr <;> exact ⟨_, rfl⟩
  obtain ⟨result, rfl⟩ := hresult
  cases result with
  | ok rows => exact ⟨rows, rfl⟩
  | error e => cases kind <;> cases hok

/-- Only a request for a page brings that page. -/
theorem Answered.page?_eq {result : ApiError.Result (Listing kind.Row)}
    (h : r.Answered (kind.response page result)) : r.page? kind = some page := by
  obtain ⟨b, hb⟩ := h
  cases kind <;> cases r <;> cases hb <;> rfl

/-- A request for a function that is granted brings a function. -/
theorem Answered.function (h : r.Answered response) (hok : response.error? = none)
    (hr : r.asksFunction = true) : ∃ f, response = .function (.ok f) := by
  have hresult : ∃ result, response = .function result := by
    obtain ⟨b, rfl⟩ := h
    cases r <;> cases hr
    exact ⟨_, rfl⟩
  obtain ⟨result, rfl⟩ := hresult
  cases result with
  | ok f => exact ⟨f, rfl⟩
  | error e => cases hok

/-- Only a request for a function brings one. -/
theorem Answered.asksFunction {result : ApiError.Result Function}
    (h : r.Answered (.function result)) : r.asksFunction = true := by
  obtain ⟨b, hb⟩ := h
  cases r <;> cases hb
  rfl

end

end Request

/-- The function that a response brings. -/
def Response.function? : Response → Option Function
  | .function (.ok f) => some f
  | _ => none

-- ==================================================== the latest request, the last answer

/-- Number `i` is the latest of the requests that `p` picks. -/
def Latest (p : Request → Bool) (issued : List Request) (i : Nat) : Prop :=
  (issued[i]?).any p = true ∧ ∀ j r, i < j → issued[j]? = some r → p r = false

/-- Of the answers to the requests that `p` picks, the one that came last, with the number of its
request. -/
def lastAnswer? (p : Request → Bool) (issued : List Request) (answers : List (Nat × Response)) :
    Option (Nat × Response) :=
  (answers.filter fun a => (issued[a.1]?).any p).getLast?

/-- After the answer to number `i` none has come to another request that `p` picks. -/
def Unovertaken (p : Request → Bool) (issued : List Request) (answers : List (Nat × Response))
    (i : Nat) : Prop :=
  ∃ earlier response later, answers = earlier ++ (i, response) :: later ∧
    ∀ a ∈ later, (issued[a.1]?).any p = false

section

variable {p : Request → Bool} {issued : List Request} {answers : List (Nat × Response)} {i : Nat}

/-- The latest request is one of those that are picked. -/
theorem Latest.picked (h : Latest p issued i) : ∃ r, issued[i]? = some r ∧ p r = true := by
  have hpicked := h.1
  cases hi : issued[i]? with
  | none =>
      rw [hi] at hpicked
      cases hpicked
  | some r =>
      rw [hi] at hpicked
      exact ⟨r, rfl, hpicked⟩

theorem Latest.lt (h : Latest p issued i) : i < issued.length := by
  obtain ⟨r, hr, -⟩ := h.picked
  exact (List.getElem?_eq_some_iff.mp hr).1

/-- There is but one latest request. -/
theorem Latest.unique {j : Nat} (h : Latest p issued i) (h' : Latest p issued j) : i = j := by
  have hnot {i j : Nat} (h : Latest p issued i) (h' : Latest p issued j) : ¬ i < j := by
    intro hlt
    obtain ⟨r, hr, hpicked⟩ := h'.picked
    rw [h.2 j r hlt hr] at hpicked
    cases hpicked
  exact Nat.le_antisymm (Nat.le_of_not_lt (hnot h' h)) (Nat.le_of_not_lt (hnot h h'))

/-- The latest request stays the latest while no more are picked. -/
theorem Latest.append (h : Latest p issued i) (new : List Request)
    (hnew : ∀ r ∈ new, p r = false) : Latest p (issued ++ new) i := by
  refine ⟨by rw [List.getElem?_append_left h.lt]; exact h.1, fun j r hij hr => ?_⟩
  by_cases hj : j < issued.length
  · rw [List.getElem?_append_left hj] at hr
    exact h.2 j r hij hr
  · rw [List.getElem?_append_right (by omega)] at hr
    exact hnew r (List.mem_of_getElem? hr)

/-- A request that has just gone out is the latest. -/
theorem latest_concat (issued : List Request) {r : Request} (hr : p r = true) :
    Latest p (issued ++ [r]) issued.length := by
  refine ⟨by simp [hr], fun j r' hj hr' => ?_⟩
  have hlt := (List.getElem?_eq_some_iff.mp hr').1
  rw [List.length_append, List.length_singleton] at hlt
  omega

/-- Requests that go out later do not change what has been answered. -/
theorem lastAnswer?_append (h : ∀ a ∈ answers, a.1 < issued.length) (new : List Request) :
    lastAnswer? p (issued ++ new) answers = lastAnswer? p issued answers := by
  have hfilter : answers.filter (fun a => ((issued ++ new)[a.1]?).any p) =
      answers.filter fun a => (issued[a.1]?).any p :=
    List.filter_congr fun a ha => by rw [List.getElem?_append_left (h a ha)]
  rw [lastAnswer?, hfilter, lastAnswer?]

/-- One more answer is the last one if it is to a request that is picked. -/
theorem lastAnswer?_concat_of_pos (a : Nat × Response) (h : (issued[a.1]?).any p = true) :
    lastAnswer? p issued (answers ++ [a]) = some a := by
  rw [lastAnswer?, List.filter_append, List.filter_cons_of_pos (by simpa using h), List.filter_nil,
    List.getLast?_concat]

/-- One more answer does not matter if it is to a request that is not picked. -/
theorem lastAnswer?_concat_of_neg (a : Nat × Response) (h : (issued[a.1]?).any p = false) :
    lastAnswer? p issued (answers ++ [a]) = lastAnswer? p issued answers := by
  rw [lastAnswer?, List.filter_append, List.filter_cons_of_neg (by simp [h]), List.filter_nil,
    List.append_nil, lastAnswer?]

/-- The last answer is the one after which no other came to a request that is picked. -/
theorem lastAnswer?_eq_some {a : Nat × Response} :
    lastAnswer? p issued answers = some a ↔ (issued[a.1]?).any p = true ∧
      ∃ earlier later, answers = earlier ++ a :: later ∧
        ∀ b ∈ later, (issued[b.1]?).any p = false := by
  constructor
  · intro h
    obtain ⟨kept, hkept⟩ := List.getLast?_eq_some_iff.mp h
    obtain ⟨first, rest, rfl, -, hrest⟩ := List.filter_eq_append_iff.mp hkept
    obtain ⟨skipped, later, rfl, -, hpicked, hlater⟩ := List.filter_eq_cons_iff.mp hrest
    exact ⟨hpicked, first ++ skipped, later, by simp,
      by simpa using List.filter_eq_nil_iff.mp hlater⟩
  · rintro ⟨hpicked, earlier, later, rfl, hlater⟩
    have hnone : later.filter (fun b => (issued[b.1]?).any p) = [] :=
      List.filter_eq_nil_iff.mpr (by simpa using hlater)
    rw [lastAnswer?, List.filter_append, List.filter_cons_of_pos (by simpa using hpicked), hnone,
      List.getLast?_concat]

/-- The last answer is to number `i` exactly if that one has not been overtaken. -/
theorem lastAnswer?_unovertaken (hi : (issued[i]?).any p = true) {j : Nat} {response : Response}
    (h : lastAnswer? p issued answers = some (j, response)) :
    j = i ↔ Unovertaken p issued answers i := by
  constructor
  · rintro rfl
    obtain ⟨-, earlier, later, heq, hlater⟩ := lastAnswer?_eq_some.mp h
    exact ⟨earlier, response, later, heq, hlater⟩
  · rintro ⟨earlier, response', later, heq, hlater⟩
    have hlast := lastAnswer?_eq_some.mpr ⟨hi, earlier, later, heq, hlater⟩
    exact congrArg Prod.fst (Option.some.inj (h.symm.trans hlast))

end

-- ==================================================== turns on one screen

namespace Console

/-- Those of some calls that go out in the name of the screen that is shown. -/
def asked (c : Console) (calls : List Call) : List Request :=
  (calls.filter fun call => call.ticket == c.ticket).map Call.request

@[simp] theorem asked_calls (c : Console) (requests : List Request) :
    c.asked (c.calls requests) = requests := by
  have hall : ((c.calls requests).filter fun call => call.ticket == c.ticket) = c.calls requests :=
    List.filter_eq_self.mpr fun call hcall => by
      obtain ⟨r, -, rfl⟩ := List.mem_map.mp hcall
      exact beq_self_eq_true _
  rw [asked, hall, calls, List.map_map]
  exact List.map_id _

/-- What may happen on a screen that stays, other than a response for it: a key to the screen, or
something around it, which asks for a change at most. -/
theorem Outcome.acted {c c' : Console} {now : Moment} {m : Message} {calls : List Call}
    (h : Outcome c now m c' calls) (hm : ∀ response, m ≠ .api c.ticket response)
    (hstays : c'.generation = c.generation) :
    (∃ key e, c.screen.handleKey key = some (c'.screen, e) ∧ c.asked calls = e.requests) ∨
      c'.screen = c.screen ∧ ∀ r ∈ c.asked calls, ∃ m, r = mutationRequest m := by
  cases h with
  | idle | declined _ _ | searched _ _ => exact .inr ⟨rfl, by simp [asked]⟩
  | opened _ _ => exact .inr ⟨rfl, by simp [asked, ticket]⟩
  | accepted _ _ =>
      refine .inr ⟨rfl, fun r hr => ?_⟩
      rw [asked_calls] at hr
      exact ⟨_, List.mem_singleton.mp hr⟩
  | worked _ _ hscreen _ => exact .inl ⟨_, _, hscreen, asked_calls c _⟩
  | received _ _ _ | finished _ _ _ | expired _ _ _ => exact absurd rfl (hm _)
  | _ => exact absurd hstays (Nat.succ_ne_self _)

/-- A response goes to the screen unless it ends the session. -/
theorem viewResponse_cases (c : Console) (now : Moment) (response : Response) :
    c.viewResponse now response = c.sessionExpired now ∨
      c.viewResponse now response =
        { c with screen := (c.screen.handleResponse response).1 }.applyEffects now
          (c.screen.handleResponse response).2 := by
  unfold viewResponse
  split
  · next result =>
      -- word that a session has ended is for no screen
      have hscreen : c.screen.handleResponse (.loggedOut result) = (c.screen, .none) := by
        cases c.screen <;> rfl
      rw [hscreen]
      exact .inr rfl
  · split
    · exact .inl rfl
    · exact .inr rfl

/-- What a response does on a screen that stays. -/
theorem process_of_staying {c : Console} {now : Moment} {response : Response}
    (hstays : (c.process now (.api c.ticket response)).1.generation = c.generation) :
    (c.process now (.api c.ticket response)).1.screen = (c.screen.handleResponse response).1 ∧
      c.asked (c.process now (.api c.ticket response)).2 =
        (c.screen.handleResponse response).2.requests := by
  rw [process_api, handleResponse_current] at hstays ⊢
  obtain hexpired | htaken := c.viewResponse_cases now response
  · rw [hexpired] at hstays
    exact absurd hstays (Nat.succ_ne_self _)
  · obtain ⟨toasts, ⟨-, heq⟩ | ⟨route, -, heq⟩⟩ :=
      applyEffects_cases { c with screen := (c.screen.handleResponse response).1 } now
        (c.screen.handleResponse_orderly response)
    · rw [htaken, heq]
      exact ⟨rfl, asked_calls c _⟩
    · rw [htaken, heq] at hstays
      exact absurd hstays (Nat.succ_ne_self _)

end Console

/-- What has happened on a screen since it opened, with a server that grants every request: the
requests that have gone out in its name, the answers that have come, each with the number of its
request, and the console as it is now. The answers come in any order. -/
inductive Served : List Request → List (Nat × Response) → Console → Prop
  /-- The screen of an address opens. -/
  | entered (c : Console) (route : Route) :
    Served (Screen.ofRoute c.screenContext route).2 [] (c.enter route).1
  /-- Anything happens but a response for the screen: keys, a question that is answered, time. -/
  | acted {issued : List Request} {answers : List (Nat × Response)} {t : Turn} :
    Served issued answers t.before → t.input.message.IsExternal →
    (∀ response, t.input.message ≠ .api t.before.ticket response) → ¬ t.Leaves →
    Served (issued ++ t.before.asked t.calls) answers t.after
  /-- A request is granted that has not been answered yet. -/
  | answered {issued : List Request} {answers : List (Nat × Response)} {t : Turn} {i : Nat}
    {request : Request} {response : Response} :
    Served issued answers t.before → issued[i]? = some request → (∀ a ∈ answers, a.1 ≠ i) →
    request.Answered response → response.error? = none →
    t.input.message = .api t.before.ticket response → ¬ t.Leaves →
    Served (issued ++ t.before.asked t.calls) (answers ++ [(i, response)]) t.after

-- ==================================================== what is shown is the last answer

section

variable {issued : List Request} {answers : List (Nat × Response)}

/-- A list shows the answer that came last to a request for its page, the page that was asked for
last; it shows nothing only while that request has not been answered. -/
def ListAnswered (kind : ListKind) (issued : List Request) (answers : List (Nat × Response))
    (l : PagedList kind.Row) : Prop :=
  ∃ i, Latest (Request.asksPage kind) issued i ∧
    (issued[i]?).bind (Request.page? kind) = some l.page ∧
    (l.content = .loading ∧ (∀ a ∈ answers, a.1 ≠ i) ∨
      ∃ j rows, l.content = .loaded rows ∧
        lastAnswer? (Request.asksFor kind l.page) issued answers =
          some (j, kind.response l.page (.ok rows)))

/-- What is shown on a screen is the last answers. -/
structure Kept (issued : List Request) (answers : List (Nat × Response)) (screen : Screen) :
    Prop where
  numbered : ∀ a ∈ answers, a.1 < issued.length
  lists : ∀ kind l, screen.list? kind = some l → ListAnswered kind issued answers l
  hasFunction : ∀ r ∈ issued, r.asksFunction = true → screen.hasFunction = true
  function : screen.function? =
    (lastAnswer? Request.asksFunction issued answers).bind fun a => a.2.function?

/-- A list that is kept or asks for a page goes on showing the last answer. -/
theorem ListAnswered.step {kind : ListKind} {l l' : PagedList kind.Row} {requests : List Request}
    (h : ListAnswered kind issued answers l) (hnumbered : ∀ a ∈ answers, a.1 < issued.length)
    (hstep : ListStep kind l l' requests) :
    ListAnswered kind (issued ++ requests) answers l' := by
  cases hstep with
  | kept hnone =>
      obtain ⟨i, hlatest, hpage, hcontent⟩ := h
      refine ⟨i, hlatest.append _ fun r hr => by rw [Request.asksPage, hnone r hr]; rfl, ?_, ?_⟩
      · rw [List.getElem?_append_left hlatest.lt]
        exact hpage
      · rwa [lastAnswer?_append hnumbered]
  | @asked page others request hrequest =>
      rw [← List.append_assoc]
      refine ⟨_, latest_concat _ (by rw [Request.asksPage, hrequest]; rfl), by simpa using hrequest,
        .inl ⟨rfl, fun a ha => ?_⟩⟩
      have hlt := hnumbered a ha
      rw [List.length_append]
      omega

/-- An answer about something else goes past a list. -/
theorem ListAnswered.past {kind : ListKind} {l : PagedList kind.Row} {i : Nat} {request : Request}
    (h : ListAnswered kind issued answers l) (hi : issued[i]? = some request)
    (hother : request.page? kind ≠ some l.page) (response : Response) :
    ListAnswered kind issued (answers ++ [(i, response)]) l := by
  obtain ⟨latest, hlatest, hpage, hcontent⟩ := h
  refine ⟨latest, hlatest, hpage, ?_⟩
  rcases hcontent with ⟨hloading, hunanswered⟩ | ⟨j, rows, hloaded, hlast⟩
  · refine .inl ⟨hloading, fun a ha => ?_⟩
    rcases List.mem_append.mp ha with h | h
    · exact hunanswered a h
    · obtain rfl := List.mem_singleton.mp h
      rintro rfl
      exact hother (by simpa [hi] using hpage)
  · refine .inr ⟨j, rows, hloaded, ?_⟩
    rw [lastAnswer?_concat_of_neg _ (by simpa [hi, Request.asksFor] using hother)]
    exact hlast

/-- After an answer a list shows the last answer. -/
theorem ListAnswered.told {kind : ListKind} {screen : Screen} {l : PagedList kind.Row} {i : Nat}
    {request : Request} {response : Response} (h : ListAnswered kind issued answers l)
    (hl : screen.list? kind = some l) (hnumbered : ∀ a ∈ answers, a.1 < issued.length)
    (hi : issued[i]? = some request) (hanswered : request.Answered response)
    (hok : response.error? = none) :
    ∃ l', (screen.handleResponse response).1.list? kind = some l' ∧
      ListAnswered kind (issued ++ (screen.handleResponse response).2.requests)
        (answers ++ [(i, response)]) l' := by
  by_cases hkind : ∃ page result, response = kind.response page result
  · obtain ⟨page, result, rfl⟩ := hkind
    have hrequest := hanswered.page?_eq
    by_cases hpage : page = l.page
    · subst hpage
      obtain ⟨rows, hrows⟩ := hanswered.rows hok hrequest
      rw [hrows]
      obtain ⟨hshown, heffects⟩ := Screen.handleResponse_of_page hl rows
      obtain ⟨latest, hlatest, hlast, -⟩ := h
      refine ⟨_, hshown, latest, ?_⟩
      rw [heffects, show Effects.none.requests = [] from rfl, List.append_nil]
      exact ⟨hlatest, hlast, .inr ⟨i, rows, rfl,
        lastAnswer?_concat_of_pos _ (by simp [hi, Request.asksFor, hrequest])⟩⟩
    · rw [Screen.handleResponse_of_other_page hl hpage]
      refine ⟨l, hl, ?_⟩
      rw [show Effects.none.requests = [] from rfl, List.append_nil]
      exact h.past hi (by simpa [hrequest] using hpage) _
  · have hother : request.page? kind ≠ some l.page := fun hrequest =>
      hkind ⟨l.page, _, (hanswered.rows hok hrequest).choose_spec⟩
    obtain ⟨l', hl', hstep⟩ := Screen.handleResponse_list hl
      fun page result heq => hkind ⟨page, result, heq⟩
    refine ⟨l', hl', (h.past hi hother response).step (fun a ha => ?_) hstep⟩
    rcases List.mem_append.mp ha with h | h
    · exact hnumbered a h
    · obtain rfl := List.mem_singleton.mp h
      exact (List.getElem?_eq_some_iff.mp hi).1

/-- More requests, none of them for a function, do not change which function was told last. -/
theorem Kept.function_append {screen : Screen} (h : Kept issued answers screen)
    (new : List Request) : screen.function? =
      (lastAnswer? Request.asksFunction (issued ++ new) answers).bind fun a => a.2.function? := by
  rw [lastAnswer?_append h.numbered]
  exact h.function

/-- The requests stay numbered while more go out. -/
theorem Kept.numbered_append {screen : Screen} (h : Kept issued answers screen)
    (new : List Request) : ∀ a ∈ answers, a.1 < (issued ++ new).length := by
  intro a ha
  rw [List.length_append]
  exact Nat.lt_of_lt_of_le (h.numbered a ha) (Nat.le_add_right _ _)

/-- A fresh screen shows nothing, and has asked for what it is going to show. -/
theorem kept_ofRoute (ctx : ScreenContext) (route : Route) :
    Kept (Screen.ofRoute ctx route).2 [] (Screen.ofRoute ctx route).1 := by
  obtain ⟨-, hfunction, hrequests⟩ := Screen.ofRoute_subject ctx route
  refine ⟨by simp, fun kind l hl => ?_, fun r hr => (hrequests r hr).2, hfunction⟩
  obtain ⟨page, others, request, rfl, hlast, hrequest⟩ := Screen.ofRoute_list hl
  rw [hlast]
  exact ⟨others.length, latest_concat _ (by rw [Request.asksPage, hrequest]; rfl),
    by simpa using hrequest, .inl ⟨rfl, by simp⟩⟩

/-- A key keeps to the last answers. -/
theorem Kept.key {screen screen' : Screen} (h : Kept issued answers screen) {key : Key}
    {e : Effects} (hkey : screen.handleKey key = some (screen', e)) :
    Kept (issued ++ e.requests) answers screen' := by
  obtain ⟨hkeeps, habout⟩ := Screen.handleKey_about hkey
  refine ⟨h.numbered_append _, fun kind l' hl' => ?_, fun r hr hasks => ?_, ?_⟩
  · have hsome : (screen.list? kind).isSome = true := by
      rw [← Screen.handleKey_list?_isSome hkey, hl']
      rfl
    obtain ⟨l, hl⟩ := Option.isSome_iff_exists.mp hsome
    obtain ⟨l'', hl'', hstep⟩ := Screen.handleKey_list hl hkey
    obtain rfl := Option.some.inj (hl'.symm.trans hl'')
    exact (h.lists kind l hl).step h.numbered hstep
  · rw [hkeeps.hasFunction]
    rcases List.mem_append.mp hr with hr | hr
    · exact h.hasFunction r hr hasks
    · rw [habout.unasked r hr] at hasks
      cases hasks
  · rw [hkeeps.function]
    exact h.function_append _

/-- A change that is asked for keeps to the last answers. -/
theorem Kept.changed {screen : Screen} (h : Kept issued answers screen) {new : List Request}
    (hnew : ∀ r ∈ new, ∃ m, r = mutationRequest m) : Kept (issued ++ new) answers screen := by
  refine ⟨h.numbered_append _, fun kind l hl => ?_, fun r hr hasks => ?_, h.function_append _⟩
  · refine (h.lists kind l hl).step h.numbered (.kept fun r hr => ?_)
    obtain ⟨m, rfl⟩ := hnew r hr
    exact Request.page?_mutationRequest kind m
  · rcases List.mem_append.mp hr with hr | hr
    · exact h.hasFunction r hr hasks
    · obtain ⟨m, rfl⟩ := hnew r hr
      rw [Request.asksFunction_mutationRequest] at hasks
      cases hasks

/-- An answer keeps to the last answers. -/
theorem Kept.told {screen : Screen} (h : Kept issued answers screen) {i : Nat} {request : Request}
    {response : Response} (hi : issued[i]? = some request) (hanswered : request.Answered response)
    (hok : response.error? = none) :
    Kept (issued ++ (screen.handleResponse response).2.requests) (answers ++ [(i, response)])
      (screen.handleResponse response).1 := by
  have hnumbered : ∀ a ∈ answers ++ [(i, response)], a.1 < issued.length := by
    intro a ha
    rcases List.mem_append.mp ha with ha | ha
    · exact h.numbered a ha
    · obtain rfl := List.mem_singleton.mp ha
      exact (List.getElem?_eq_some_iff.mp hi).1
  refine ⟨fun a ha => ?_, fun kind l' hl' => ?_, fun r hr hasks => ?_, ?_⟩
  · rw [List.length_append]
    exact Nat.lt_of_lt_of_le (hnumbered a ha) (Nat.le_add_right _ _)
  · have hsome : (screen.list? kind).isSome = true := by
      rw [← Screen.handleResponse_list?_isSome, hl']
      rfl
    obtain ⟨l, hl⟩ := Option.isSome_iff_exists.mp hsome
    obtain ⟨l'', hl'', hlast⟩ := (h.lists kind l hl).told hl h.numbered hi hanswered hok
    obtain rfl := Option.some.inj (hl'.symm.trans hl'')
    exact hlast
  · rw [Screen.handleResponse_hasFunction]
    rcases List.mem_append.mp hr with hr | hr
    · exact h.hasFunction r hr hasks
    · cases hshown : screen.hasFunction with
      | true => rfl
      | false =>
          rw [Screen.handleResponse_requests hshown] at hr
          cases hr
  · rw [lastAnswer?_append hnumbered]
    cases hasks : request.asksFunction with
    | true =>
        obtain ⟨f, rfl⟩ := hanswered.function hok hasks
        have hshown := h.hasFunction request (List.mem_of_getElem? hi) hasks
        rw [Screen.handleResponse_function hshown,
          lastAnswer?_concat_of_pos _ (by simp [hi, hasks])]
        rfl
    | false =>
        have hother : ∀ result, response ≠ .function result := by
          rintro result rfl
          rw [hanswered.asksFunction] at hasks
          cases hasks
        rw [(screen.handleResponse_heeds response).function hother,
          lastAnswer?_concat_of_neg _ (by simp [hi, hasks])]
        exact h.function

/-- All along, what is shown on a screen is the last answers. -/
theorem served_kept {c : Console} (h : Served issued answers c) : Kept issued answers c.screen := by
  induction h with
  | entered c route => exact kept_ofRoute c.screenContext route
  | @acted issued answers t _ hexternal hother hstays ih =>
      rcases (Turn.outcome hexternal).acted hother (Decidable.not_not.mp hstays) with
        ⟨key, e, hkey, hasked⟩ | ⟨hscreen, hchanges⟩
      · rw [hasked]
        exact ih.key hkey
      · rw [hscreen]
        exact ih.changed hchanges
  | @answered issued answers t i request response _ hi _ hanswered hok hmessage hstays ih =>
      have hstays := Decidable.not_not.mp hstays
      rw [Turn.after, hmessage] at hstays
      obtain ⟨hscreen, hasked⟩ := Console.process_of_staying hstays
      rw [Turn.after, Turn.calls, hmessage, hscreen, hasked]
      exact ih.told hi hanswered hok

/-- Every answer that came grants the request that it is numbered after. -/
theorem Served.granted {c : Console} (h : Served issued answers c) : ∀ a ∈ answers,
    ∃ r, issued[a.1]? = some r ∧ r.Answered a.2 ∧ a.2.error? = none := by
  -- the requests keep their numbers while more go out
  have happend {issued new : List Request} {i : Nat} {r : Request} (hr : issued[i]? = some r) :
      (issued ++ new)[i]? = some r := by
    rw [List.getElem?_append_left (List.getElem?_eq_some_iff.mp hr).1, hr]
  induction h with
  | entered => simp
  | acted _ _ _ _ ih =>
      intro a ha
      obtain ⟨r, hr, hgranted⟩ := ih a ha
      exact ⟨r, happend hr, hgranted⟩
  | answered _ hi _ hanswered hok _ _ ih =>
      intro a ha
      rcases List.mem_append.mp ha with ha | ha
      · obtain ⟨r, hr, hgranted⟩ := ih a ha
        exact ⟨r, happend hr, hgranted⟩
      · obtain rfl := List.mem_singleton.mp ha
        exact ⟨_, happend hi, hanswered, hok⟩

/-- The last answer wins. Take a screen with a server that grants all it is asked for, in any order,
and take it when every request has been answered. A list shows the page that was asked for last, and
of it the answer that came last; the function that is shown is the one that was told last. Either is
the answer to the request that went out last exactly if no answer to an earlier one for the same has
overtaken it. -/
theorem last_answer_wins {c : Console} (h : Served issued answers c)
    (hall : ∀ i, i < issued.length → ∃ response, (i, response) ∈ answers) :
    (∀ kind l, c.screen.list? kind = some l → ∃ i j rows,
      Latest (Request.asksPage kind) issued i ∧
        (issued[i]?).bind (Request.page? kind) = some l.page ∧ l.content = .loaded rows ∧
        lastAnswer? (Request.asksFor kind l.page) issued answers =
          some (j, kind.response l.page (.ok rows)) ∧
        (j = i ↔ Unovertaken (Request.asksFor kind l.page) issued answers i)) ∧
    (∀ i, Latest Request.asksFunction issued i → ∃ j f, c.screen.function? = some f ∧
      lastAnswer? Request.asksFunction issued answers = some (j, .function (.ok f)) ∧
      (j = i ↔ Unovertaken Request.asksFunction issued answers i)) ∧
    ((∀ r ∈ issued, r.asksFunction = false) → c.screen.function? = none) := by
  have hkept := served_kept h
  refine ⟨fun kind l hl => ?_, fun i hlatest => ?_, fun hnone => ?_⟩
  · obtain ⟨i, hlatest, hpage, ⟨-, hunanswered⟩ | ⟨j, rows, hloaded, hlast⟩⟩ :=
      hkept.lists kind l hl
    · obtain ⟨response, hmem⟩ := hall i hlatest.lt
      exact absurd rfl (hunanswered _ hmem)
    · have hpicked : (issued[i]?).any (Request.asksFor kind l.page) = true := by
        obtain ⟨r, hr, hasks⟩ := Option.bind_eq_some_iff.mp hpage
        simp [hr, Request.asksFor, hasks]
      exact ⟨i, j, rows, hlatest, hpage, hloaded, hlast, lastAnswer?_unovertaken hpicked hlast⟩
  · obtain ⟨response, hmem⟩ := hall i hlatest.lt
    cases hlast : lastAnswer? Request.asksFunction issued answers with
    | none =>
        have hempty := List.getLast?_eq_none_iff.mp hlast
        exact absurd hlatest.1 (List.filter_eq_nil_iff.mp hempty _ hmem)
    | some a =>
        obtain ⟨hpicked, _, _, heq, -⟩ := lastAnswer?_eq_some.mp hlast
        obtain ⟨r, hr, hanswered, hok⟩ := h.granted a (by rw [heq]; simp)
        obtain ⟨f, hf⟩ := hanswered.function hok (by simpa [hr] using hpicked)
        obtain ⟨j, told⟩ := a
        obtain rfl : told = .function (.ok f) := hf
        refine ⟨j, f, ?_, rfl, lastAnswer?_unovertaken hlatest.1 hlast⟩
        rw [hkept.function, hlast]
        rfl
  · have hnothing : lastAnswer? Request.asksFunction issued answers = none := by
      cases hlast : lastAnswer? Request.asksFunction issued answers with
      | none => rfl
      | some a =>
          have hpicked := (lastAnswer?_eq_some.mp hlast).1
          cases hr : issued[a.1]? with
          | none => simp [hr] at hpicked
          | some r => simp [hr, hnone r (List.mem_of_getElem? hr)] at hpicked
    rw [hkept.function, hnothing]
    rfl

end

-- ==================================================== a screen that asks twice

section

variable {issued : List Request} {answers : List (Nat × Response)} {c : Console}
variable {past : List Input}

/-- A key on a screen that stays. -/
theorem Served.key (h : Served issued answers (c.through past)) (key : Key) (new : List Request)
    (hstays : (c.through (past ++ [⟨0, .key key⟩])).generation = (c.through past).generation)
    (hnew : (c.through past).asked (Turn.calls ⟨c.through past, 0, .key key⟩) = new) :
    Served (issued ++ new) answers (c.through (past ++ [⟨0, .key key⟩])) := by
  rw [c.through_concat] at hstays ⊢
  rw [← hnew]
  exact h.acted (t := ⟨c.through past, 0, .key key⟩) trivial (fun _ heq => by cases heq)
    fun hleaves => hleaves hstays

/-- A request that some server grants on a screen that stays. -/
theorem Served.grant (h : Served issued answers (c.through past)) (i : Nat) (ticket : Ticket)
    (new : List Request) {r : Request} {response : Response} (hi : issued[i]? = some r)
    (hfirst : ∀ a ∈ answers, a.1 ≠ i) (hanswered : r.Answered response)
    (hok : response.error? = none) (hticket : (c.through past).ticket = ticket)
    (hstays : (c.through (past ++ [⟨0, .api ticket response⟩])).generation =
      (c.through past).generation)
    (hnew : (c.through past).asked (Turn.calls ⟨c.through past, 0, .api ticket response⟩) = new) :
    Served (issued ++ new) (answers ++ [(i, response)])
      (c.through (past ++ [⟨0, .api ticket response⟩])) := by
  rw [c.through_concat] at hstays ⊢
  rw [← hnew]
  exact h.answered (t := ⟨c.through past, 0, .api ticket response⟩) hi hfirst hanswered hok
    (by rw [hticket]) fun hleaves => hleaves hstays

end

namespace Revisit

-- On the screen with versions everything is asked for twice: the page, whose size is changed and
-- changed back, and page and function again after a version was activated.

/-- The function, by the name that it has at some time. -/
def function (name : String) : Function := { (default : Function) with id := "f", name }

/-- The versions, by the latest one that there is at some time. -/
def page (version : UInt32) : VersionList := ⟨[⟨version, 0, ""⟩], ⟨1, 20, 0⟩⟩

/-- A server that grants what the screen with versions asks for. -/
def server (name : String) (version : UInt32) : Backend Id :=
  { refusingServer (.network "refused") with
    getFunction := fun _ => .ok (function name)
    listVersions := fun _ _ _ => .ok (page version)
    activateVersion := fun _ _ => .ok () }

/-- The requests that go out: on entry, for two pages, the change, and what is loaded after it. -/
def issued : List Request :=
  [.getFunction "f", .listVersions "f" 20 0, .listVersions "f" 50 0, .listVersions "f" 20 0,
    .activateVersion "f" 2, .getFunction "f", .listVersions "f" 20 0]

/-- The answers in the order in which they come, those to the last requests before those to the
first. -/
def answers : List (Nat × Response) :=
  [(3, .versions ⟨20, 0⟩ (.ok (page 2))), (4, .versionActivated 2 (.ok ())),
    (5, .function (.ok (function "new"))), (6, .versions ⟨20, 0⟩ (.ok (page 3))),
    (0, .function (.ok (function "old"))), (1, .versions ⟨20, 0⟩ (.ok (page 1))),
    (2, .versions ⟨50, 0⟩ (.ok (page 1)))]

/-- The page size is changed and changed back, a version is activated, and the answers come. -/
def inputs : List Input :=
  [⟨0, .startup (.versions "f") (some "secret")⟩, ⟨0, .api ⟨.view, 1⟩ (.loggedIn (.ok ()))⟩,
    ⟨0, .key (.char '+')⟩, ⟨0, .key (.char '-')⟩,
    ⟨0, .api ⟨.view, 2⟩ (.versions ⟨20, 0⟩ (.ok (page 2)))⟩,
    ⟨0, .key (.char 'a')⟩, ⟨0, .key (.char 'y')⟩,
    ⟨0, .api ⟨.view, 2⟩ (.versionActivated 2 (.ok ()))⟩,
    ⟨0, .api ⟨.view, 2⟩ (.function (.ok (function "new")))⟩,
    ⟨0, .api ⟨.view, 2⟩ (.versions ⟨20, 0⟩ (.ok (page 3)))⟩,
    ⟨0, .api ⟨.view, 2⟩ (.function (.ok (function "old")))⟩,
    ⟨0, .api ⟨.view, 2⟩ (.versions ⟨20, 0⟩ (.ok (page 1)))⟩,
    ⟨0, .api ⟨.view, 2⟩ (.versions ⟨50, 0⟩ (.ok (page 1)))⟩]

/-- The run is one with a server that grants every request. -/
theorem served : Served issued answers ((start {}).through inputs) := by
  have hopened : Served [.getFunction "f", .listVersions "f" 20 0] [] ((start {}).through
      [⟨0, .startup (.versions "f") (some "secret")⟩, ⟨0, .api ⟨.view, 1⟩ (.loggedIn (.ok ()))⟩]) :=
    .entered (Turn.after ⟨start {}, 0, .startup (.versions "f") (some "secret")⟩) (.versions "f")
  have hturned := hopened.key (.char '+') [.listVersions "f" 50 0]
    (by decide +kernel) (by decide +kernel)
  have hback := hturned.key (.char '-') [.listVersions "f" 20 0]
    (by decide +kernel) (by decide +kernel)
  have hlisted := hback.grant 3 ⟨.view, 2⟩ [] rfl (by simp) ⟨server "" 2, rfl⟩ rfl
    (by decide +kernel) (by decide +kernel) (by decide +kernel)
  have hasked := hlisted.key (.char 'a') [] (by decide +kernel) (by decide +kernel)
  have hconfirmed := hasked.key (.char 'y') [.activateVersion "f" 2]
    (by decide +kernel) (by decide +kernel)
  have hactivated := hconfirmed.grant 4 ⟨.view, 2⟩ [.getFunction "f", .listVersions "f" 20 0] rfl
    (by simp) ⟨server "" 2, rfl⟩ rfl (by decide +kernel) (by decide +kernel) (by decide +kernel)
  have hfive := hactivated.grant 5 ⟨.view, 2⟩ [] rfl (by simp) ⟨server "new" 3, rfl⟩ rfl
    (by decide +kernel) (by decide +kernel) (by decide +kernel)
  have hsix := hfive.grant 6 ⟨.view, 2⟩ [] rfl (by simp) ⟨server "new" 3, rfl⟩ rfl
    (by decide +kernel) (by decide +kernel) (by decide +kernel)
  have hzero := hsix.grant 0 ⟨.view, 2⟩ [] rfl (by simp) ⟨server "old" 1, rfl⟩ rfl
    (by decide +kernel) (by decide +kernel) (by decide +kernel)
  have hone := hzero.grant 1 ⟨.view, 2⟩ [] rfl (by simp) ⟨server "old" 1, rfl⟩ rfl
    (by decide +kernel) (by decide +kernel) (by decide +kernel)
  exact hone.grant 2 ⟨.view, 2⟩ [] rfl (by simp) ⟨server "old" 1, rfl⟩ rfl
    (by decide +kernel) (by decide +kernel) (by decide +kernel)

/-- Every request of the run has been answered. -/
theorem answered : ∀ i, i < issued.length → ∃ response, (i, response) ∈ answers := by
  intro i hi
  have hmem : ∀ i, i < issued.length → i ∈ answers.map Prod.fst := by decide
  obtain ⟨⟨_, response⟩, hanswer, rfl⟩ := List.mem_map.mp (hmem i hi)
  exact ⟨response, hanswer⟩

/-- The last page is asked for at the end. -/
theorem latest_page : Latest (Request.asksPage .versions) issued 6 :=
  latest_concat (issued.take 6) rfl

/-- The function is asked for last just before that. -/
theorem latest_function : Latest Request.asksFunction issued 5 :=
  (latest_concat (issued.take 5) rfl).append [.listVersions "f" 20 0]
    (by simp [Request.asksFunction])

end Revisit

namespace Console

/-- Once every request has been answered, what is shown need not be the answers to the latest
requests: here the page and the function are those that the first requests brought, because these
have come last. -/
theorem earlier_request_wins :
    let last := (start {}).through Revisit.inputs
    Served Revisit.issued Revisit.answers last ∧
      (∀ i, i < Revisit.issued.length → ∃ response, (i, response) ∈ Revisit.answers) ∧
      (¬ ∀ l, last.screen.list? .versions = some l → ∃ i rows,
        Latest (Request.asksPage .versions) Revisit.issued i ∧ l.content = .loaded rows ∧
          (i, ListKind.versions.response l.page (.ok rows)) ∈ Revisit.answers) ∧
      ¬ ∀ i, Latest Request.asksFunction Revisit.issued i →
        ∃ f, last.screen.function? = some f ∧ (i, .function (.ok f)) ∈ Revisit.answers := by
  intro last
  refine ⟨Revisit.served, Revisit.answered, fun hwins => ?_, fun hwins => ?_⟩
  · obtain ⟨i, rows, hlatest, hrows, hmem⟩ := hwins ⟨⟨20, 0⟩, .loaded (Revisit.page 1)⟩ rfl
    obtain rfl := hlatest.unique Revisit.latest_page
    cases hrows
    simp [Revisit.answers, ListKind.response, Revisit.page] at hmem
  · obtain ⟨f, hf, hmem⟩ := hwins 5 Revisit.latest_function
    cases hf
    simp [Revisit.answers, Revisit.function] at hmem

/-- In that run the answers to the latest requests have been overtaken by those that are shown. -/
theorem overtaken_answers_are_not_shown :
    let last := (start {}).through Revisit.inputs
    last.screen.list? .versions = some ⟨⟨20, 0⟩, .loaded (Revisit.page 1)⟩ ∧
      last.screen.function? = some (Revisit.function "old") ∧
      ¬ Unovertaken (Request.asksFor .versions ⟨20, 0⟩) Revisit.issued Revisit.answers 6 ∧
      ¬ Unovertaken Request.asksFunction Revisit.issued Revisit.answers 5 := by
  intro last
  obtain ⟨hlists, hfunction, -⟩ := last_answer_wins Revisit.served Revisit.answered
  obtain ⟨i, j, rows, hlatest, -, -, hlast, hiff⟩ := hlists .versions _ rfl
  obtain rfl := hlatest.unique Revisit.latest_page
  obtain ⟨j', f, hf, hlast', hiff'⟩ := hfunction 5 Revisit.latest_function
  cases hlast
  cases hlast'
  exact ⟨rfl, hf, mt hiff.mpr (by decide), mt hiff'.mpr (by decide)⟩

end Console

end FunctionConsole
