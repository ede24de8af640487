import FunctionConsole.Proofs.SavesInFlight
import Mathlib.Data.List.TakeWhile

/-!
# Submissions

Four screens are forms: the login, a new function, the code of a function and its test. Each submits
one thing, in one way or several (Enter, a control key, a button), sets a mark when it goes out, and
takes it away when the answer comes. What else is asked for and answered meanwhile, such as the
function itself or the logs of a call, leaves the mark alone.

`Form` is what the four have in common, and `Screen.History` what has happened on a screen by
itself: the keys that it was given and the answers to its own requests, each once and in any order.
`Flight` is the invariant along it, with one lemma for a key and one for an answer.
`submissions_are_single_flight` is what the mark means: a submission is out, and it is the only one.
-/

namespace FunctionConsole

-- ==================================================== histories of a screen

namespace Screen

/-- A screen as it opens, with the requests that it needs: the screen of an address, or the login
screen at the start, with a key that is already submitted or without. -/
inductive Opens : Screen → List Request → Prop
  | address (ctx : ScreenContext) (route : Route) :
    Opens (ofRoute ctx route).1 (ofRoute ctx route).2
  | login (redirect : Route) : Opens (.login { redirect }) []
  | submitted (apiKey : String) (redirect : Route) :
    Opens (.login (LoginScreen.submitted apiKey redirect).1)
      (LoginScreen.submitted apiKey redirect).2

/-- What has happened on a screen by itself since it opened, and the screen as it is now. The server
answers each request once, as it likes and when it likes. -/
inductive History : List Exchange → Screen → Prop
  /-- The screen opens. -/
  | opened {screen : Screen} {requests : List Request} :
    Opens screen requests → History (requests.map .sent) screen
  /-- The screen takes a key. -/
  | key {log : List Exchange} {screen screen' : Screen} {key : Key} {e : Effects} :
    History log screen → screen.handleKey key = some (screen', e) →
    History (log ++ e.requests.map .sent) screen'
  /-- A request is answered that has not been answered yet. -/
  | answered {log : List Exchange} {screen : Screen} {i : Nat} {request : Request}
    {response : Response} :
    History log screen → Outstanding log i request → request.Answered response →
    History (log ++ [.answered i response] ++ (screen.handleResponse response).2.requests.map .sent)
      (screen.handleResponse response).1

section

variable {log : List Exchange} {screen : Screen}

/-- A key with what it sends. -/
theorem History.press (h : History log screen) (key : Key) (screen' : Screen) (new : List Request)
    (hkey : (screen.handleKey key).map (fun p => (p.1, p.2.requests)) = some (screen', new)) :
    History (log ++ new.map .sent) screen' := by
  obtain ⟨⟨_, e⟩, hpressed, heq⟩ := Option.map_eq_some_iff.mp hkey
  cases heq
  exact h.key hpressed

/-- An answer with what is sent on it. -/
theorem History.receive (h : History log screen) (i : Nat) {request : Request}
    (response : Response) {screen' : Screen} {new : List Request}
    (hopen : Outstanding log i request) (hanswered : request.Answered response)
    (hscreen : (screen.handleResponse response).1 = screen')
    (hnew : (screen.handleResponse response).2.requests = new) :
    History (log ++ [.answered i response] ++ new.map .sent) screen' := by
  subst hscreen hnew
  exact h.answered hopen hanswered

end

/-- Answers bear the numbers of requests that have gone out. -/
theorem History.numbered {log : List Exchange} {screen : Screen} (h : History log screen) :
    ∀ i response, .answered i response ∈ log → i < (requestsIn log).length := by
  have hsent {log : List Exchange} (new : List Request)
      (ih : ∀ i response, .answered i response ∈ log → i < (requestsIn log).length) (i : Nat)
      (response : Response) (hmem : .answered i response ∈ log ++ new.map Exchange.sent) :
      i < (requestsIn (log ++ new.map .sent)).length := by
    rw [requestsIn_sent, List.length_append]
    exact Nat.lt_add_right _ (ih i response (answered_mem_sent.mp hmem))
  induction h with
  | @opened screen requests _ => simp
  | key _ _ ih => exact hsent _ ih
  | @answered log _ i request response _ hopen _ ih =>
      refine hsent _ fun j response' hmem => ?_
      rw [requestsIn_answered]
      rcases List.mem_append.mp hmem with hmem | hmem
      · exact ih j response' hmem
      · cases List.mem_singleton.mp hmem
        exact (List.getElem?_eq_some_iff.mp hopen.1).1

end Screen

-- ==================================================== forms

/-- What a form submits. -/
inductive Submission where
  | login
  | newFunction
  | code
  | call
  deriving DecidableEq, Repr

namespace Submission

/-- Whether a request is a submission of this kind. -/
def asks : Submission → Request → Bool
  | .login, .login _ => true
  | .newFunction, .createFunction _ => true
  | .code, .updateFunction _ patch => patch.code.isSome
  | .call, .invoke _ _ => true
  | _, _ => false

/-- Whether a request is one of those with which a form of this kind loads what it shows. -/
def loads : Submission → Request → Bool
  | .code, .getFunction _ => true
  | .call, .getFunction _ => true
  | .call, .executionLogs _ _ _ => true
  | _, _ => false

/-- Whether a response answers a submission of this kind. -/
def tells : Submission → Response → Bool
  | .login, .loggedIn _ => true
  | .newFunction, .functionCreated _ => true
  | .code, .functionUpdated _ _ => true
  | .call, .invoked _ => true
  | _, _ => false

theorem asks_of_loads {kind : Submission} {r : Request} (h : kind.loads r = true) :
    kind.asks r = false := by
  cases kind <;> cases r <;> first | rfl | cases h

end Submission

/-- Of what a form sends, an answer is to a submission exactly if the request was one. -/
theorem Request.Answered.tells_eq {r : Request} {response : Response} (h : r.Answered response)
    {kind : Submission} (hsent : kind.asks r = true ∨ kind.loads r = true) :
    kind.tells response = kind.asks r := by
  obtain ⟨b, rfl⟩ := h
  rcases hsent with hasks | hloads
  · rw [hasks]
    cases kind <;> cases r <;> first | rfl | cases hasks
  · rw [Submission.asks_of_loads hloads]
    cases kind <;> cases r <;> first | rfl | cases hloads

/-- A form: what it submits, its mark for a submission that is out, and whether what has been typed
passes its own check. -/
structure Form where
  kind : Submission
  inFlight : Bool
  ready : Bool

/-- The login screen needs a key that is not blank. -/
def LoginScreen.form (s : LoginScreen) : Form :=
  ⟨.login, s.submitting, !Text.isAllBlank s.apiKey.value⟩

/-- A new function needs a name that is not blank. -/
def CreateScreen.form (s : CreateScreen) : Form :=
  ⟨.newFunction, s.submitting, !Text.isAllBlank s.name.value⟩

/-- The code is saved only where it was changed. -/
def CodeScreen.form (s : CodeScreen) : Form := ⟨.code, s.saving, s.editedCode.isSome⟩

/-- A call needs headers that can be read. -/
def TestScreen.form (s : TestScreen) : Form :=
  ⟨.call, s.sending, (parseHeaders s.headers.text).isOk⟩

/-- The form that a screen is, if it is one. -/
def Screen.form? : Screen → Option Form
  | .login s => some s.form
  | .create s => some s.form
  | .code s => some s.form
  | .test s => some s.form
  | _ => none

/-- What a key does to a form: the form before, the mark after, and what goes out. -/
inductive FormStep (form : Form) : Bool → List Request → Prop
  /-- Nothing goes out, and the mark stays. -/
  | idle : FormStep form form.inFlight []
  /-- The mark was not set, what was typed passes the check, and a submission sets the mark. -/
  | submitted {r : Request} : form.inFlight = false → form.ready = true → form.kind.asks r = true →
    FormStep form true [r]

theorem FormStep.asks {form : Form} {inFlight : Bool} {requests : List Request} {r : Request}
    (h : FormStep form inFlight requests) (hr : r ∈ requests) : form.kind.asks r = true := by
  cases h with
  | idle => cases hr
  | submitted _ _ hasks => exact List.mem_singleton.mp hr ▸ hasks

/-- What only moves around in a form, or types in it, sends nothing and leaves the mark. -/
theorem FormStep.kept {σ : Type} (mark : σ → Bool) {form : Form} {s' : σ}
    (h : mark s' = form.inFlight) :
    ∀ p ∈ some (s', Effects.none), FormStep form (mark p.1) p.2.requests := by
  rintro p ⟨⟩
  rw [h]
  exact .idle

-- ==================================================== keys

namespace LoginScreen

theorem submit_step (s : LoginScreen) :
    FormStep s.form s.submit.1.submitting s.submit.2.requests := by
  unfold submit
  split
  · next hsubmit =>
      rw [canSubmit, Bool.and_eq_true, Bool.not_eq_true'] at hsubmit
      exact .submitted hsubmit.1 hsubmit.2 rfl
  · exact .idle

theorem submits_ready (s : LoginScreen) (hfree : s.submitting = false)
    (hready : s.form.ready = true) :
    ∃ r, s.submit.2.requests = [r] ∧ s.form.kind.asks r = true := by
  have hsubmit : s.canSubmit = true := by
    rw [canSubmit, Bool.and_eq_true, Bool.not_eq_true']
    exact ⟨hfree, hready⟩
  rw [submit, if_pos hsubmit]
  exact ⟨_, rfl, rfl⟩

theorem handleKey_step (s : LoginScreen) (key : Key) :
    ∀ p ∈ s.handleKey key, FormStep s.form p.1.submitting p.2.requests := by
  unfold handleKey
  split
  case h_1 | h_2 => simpa using s.submit_step
  case h_3 =>
      dsimp only
      split
      · exact FormStep.kept submitting rfl
      · simp

end LoginScreen

namespace CreateScreen

theorem submit_step (s : CreateScreen) :
    FormStep s.form s.submit.1.submitting s.submit.2.requests := by
  unfold submit
  split
  · exact .idle
  · next hfree =>
      dsimp only
      split
      · exact .idle
      · next hname =>
          have hready : s.form.ready = true := by simpa [form, Text.trim_eq_empty_iff] using hname
          exact .submitted (eq_false_of_ne_true hfree) hready rfl

theorem submits_ready (s : CreateScreen) (hfree : s.submitting = false)
    (hready : s.form.ready = true) :
    ∃ r, s.submit.2.requests = [r] ∧ s.form.kind.asks r = true := by
  have hname : Text.trim s.name.value ≠ "" :=
    Text.trim_ne_empty (by rwa [form, Bool.not_eq_true'] at hready)
  rw [submit, hfree]
  dsimp only
  rw [if_neg hname]
  exact ⟨_, rfl, rfl⟩

theorem focusedKey_step (s : CreateScreen) (key : Key) :
    ∀ p ∈ s.focusedKey key, FormStep s.form p.1.submitting p.2.requests := by
  unfold focusedKey
  split
  case h_3 =>
      unfold templateKey
      split
      case h_7 => simp
      all_goals exact FormStep.kept submitting rfl
  case h_4 =>
      split
      case h_3 => simp
      all_goals simpa using s.submit_step
  all_goals
    split
    · exact FormStep.kept submitting rfl
    · dsimp only
      split
      · exact FormStep.kept submitting (by dsimp only; split <;> rfl)
      · simp

theorem handleKey_step (s : CreateScreen) (key : Key) :
    ∀ p ∈ s.handleKey key, FormStep s.form p.1.submitting p.2.requests := by
  unfold handleKey
  split
  case h_1 => simpa using s.submit_step
  case h_6 => exact s.focusedKey_step key
  all_goals exact FormStep.kept submitting rfl

end CreateScreen

namespace CodeScreen

theorem save_step (s : CodeScreen) : FormStep s.form s.save.1.saving s.save.2.requests := by
  unfold save
  split
  · exact .idle
  · next hfree =>
      split
      · next code hcode =>
          exact .submitted (eq_false_of_ne_true hfree) (by simp [form, hcode]) rfl
      · exact .idle

theorem submits_ready (s : CodeScreen) (hfree : s.saving = false) (hready : s.form.ready = true) :
    ∃ r, s.save.2.requests = [r] ∧ s.form.kind.asks r = true := by
  obtain ⟨code, hcode⟩ := Option.isSome_iff_exists.mp hready
  rw [save, hfree, hcode]
  exact ⟨_, rfl, rfl⟩

theorem handleKey_step (s : CodeScreen) (key : Key) :
    ∀ p ∈ s.handleKey key, FormStep s.form p.1.saving p.2.requests := by
  unfold handleKey
  split
  · simpa using s.save_step
  · split
    · unfold editingKey
      split
      case h_3 =>
          dsimp only
          split
          · exact FormStep.kept saving rfl
          · simp
      all_goals exact FormStep.kept saving rfl
    · unfold readingKey
      split
      case h_1 | h_2 | h_3 =>
          split
          · exact FormStep.kept saving rfl
          · simp
      case h_14 => simp
      all_goals exact FormStep.kept saving rfl

end CodeScreen

namespace TestScreen

theorem send_step (s : TestScreen) : FormStep s.form s.send.1.sending s.send.2.requests := by
  unfold send
  split
  · exact .idle
  · next hfree =>
      split
      · exact .idle
      · next headers hheaders =>
          have hready : s.form.ready = true := by rw [form, hheaders]; rfl
          exact .submitted (eq_false_of_ne_true hfree) hready rfl

theorem submits_ready (s : TestScreen) (hfree : s.sending = false) (hready : s.form.ready = true) :
    ∃ r, s.send.2.requests = [r] ∧ s.form.kind.asks r = true := by
  rw [send, hfree]
  cases hheaders : parseHeaders s.headers.text with
  | error fault =>
      rw [form, hheaders] at hready
      cases hready
  | ok headers => exact ⟨_, rfl, rfl⟩

/-- A key makes the call, or leaves the last one as it is. -/
theorem focusedKey_cases (s : TestScreen) (key : Key) : ∀ p ∈ s.focusedKey key,
    p = s.send ∨ p.2 = .none ∧ p.1.sending = s.sending ∧ p.1.response = s.response ∧
      p.1.logs = s.logs := by
  unfold focusedKey
  split
  case h_1 => split <;> simp
  case h_5 => split <;> simp
  all_goals
    dsimp only
    split <;> simp

theorem handleKey_cases (s : TestScreen) (key : Key) : ∀ p ∈ s.handleKey key,
    p = s.send ∨ p.2 = .none ∧ p.1.sending = s.sending ∧ p.1.response = s.response ∧
      p.1.logs = s.logs := by
  unfold handleKey
  split
  case h_5 => exact s.focusedKey_cases key
  all_goals simp

theorem handleKey_step (s : TestScreen) (key : Key) :
    ∀ p ∈ s.handleKey key, FormStep s.form p.1.sending p.2.requests := by
  intro p hp
  obtain rfl | ⟨hnone, hsending, -⟩ := s.handleKey_cases key p hp
  · exact s.send_step
  · rw [hnone, hsending]
    exact .idle

end TestScreen

-- ==================================================== answers

theorem LoginScreen.handleResponse_mark (s : LoginScreen) (response : Response) :
    (s.handleResponse response).1.submitting = (s.submitting && !Submission.login.tells response) ∧
      ∀ r ∈ (s.handleResponse response).2.requests, Submission.login.loads r = true := by
  cases response with
  | loggedIn result => cases result <;> simp [handleResponse, Submission.tells, Effects.goTo]
  | _ => simp [handleResponse, Submission.tells]

theorem CreateScreen.handleResponse_mark (s : CreateScreen) (response : Response) :
    (s.handleResponse response).1.submitting =
        (s.submitting && !Submission.newFunction.tells response) ∧
      ∀ r ∈ (s.handleResponse response).2.requests, Submission.newFunction.loads r = true := by
  cases response with
  | functionCreated result =>
      cases result with
      | ok _ => simp [handleResponse, Submission.tells]
      | error e => cases e <;> simp [handleResponse, Submission.tells]
  | _ => simp [handleResponse, Submission.tells]

theorem CodeScreen.handleResponse_mark (s : CodeScreen) (response : Response) :
    (s.handleResponse response).1.saving = (s.saving && !Submission.code.tells response) ∧
      ∀ r ∈ (s.handleResponse response).2.requests, Submission.code.loads r = true := by
  cases response with
  | function result => cases result <;> simp [handleResponse, receive, Submission.tells]
  | functionUpdated patch result =>
      cases result <;> simp [handleResponse, Submission.tells, Submission.loads]
  | _ => simp [handleResponse, Submission.tells]

theorem TestScreen.handleResponse_mark (s : TestScreen) (response : Response) :
    (s.handleResponse response).1.sending = (s.sending && !Submission.call.tells response) ∧
      ∀ r ∈ (s.handleResponse response).2.requests, Submission.call.loads r = true := by
  cases response with
  | function result => cases result <;> simp [handleResponse, Submission.tells]
  | logs page result => cases result <;> simp [handleResponse, Submission.tells]
  | invoked result =>
      cases result with
      | ok r => cases hid : r.executionId <;>
          simp [handleResponse, hid, Submission.tells, Submission.loads, Effects.request]
      | error e => simp [handleResponse, Submission.tells]
  | _ => simp [handleResponse, Submission.tells]

-- ==================================================== the mark along a history

/-- Whenever a request that `p` picks went out, none that it picks was out. -/
def SingleFlight (p : Request → Bool) (log : List Exchange) : Prop :=
  ∀ before r, before ++ [.sent r] <+: log → p r = true → ∀ i s, Outstanding before i s → p s = false

/-- What a request was sent after comes first, or the request is one of those that come later. -/
theorem sent_prefix_append {before log new : List Exchange} {r : Request}
    (h : before ++ [.sent r] <+: log ++ new) : before ++ [.sent r] <+: log ∨ .sent r ∈ new := by
  by_cases hle : (before ++ [Exchange.sent r]).length ≤ log.length
  · exact .inl (List.prefix_of_prefix_length_le h (List.prefix_append log new) hle)
  · -- the request stands behind the whole of the log
    obtain ⟨after, heq⟩ := h
    have hlength : log.length ≤ before.length := Nat.le_of_lt_succ (by simpa using hle)
    have hsent : (log ++ new)[before.length]? = some (.sent r) := by simp [← heq]
    rw [List.getElem?_append_right hlength] at hsent
    exact .inr (List.mem_of_getElem? hsent)

/-- What a mark says about the requests that `p` picks: it is set exactly while one of them is out,
the one that is out is the latest, and none ever went out beside another. -/
structure Flight (p : Request → Bool) (log : List Exchange) (inFlight : Bool) : Prop where
  out : inFlight = true ↔ ∃ i r, Outstanding log i r ∧ p r = true
  latest : ∀ i r, Outstanding log i r → p r = true → Latest p (requestsIn log) i
  alone : SingleFlight p log

namespace Flight

variable {p : Request → Bool} {log : List Exchange} {inFlight : Bool}

theorem nil : Flight p [] false where
  out := ⟨nofun, fun ⟨_, _, hopen, _⟩ => by cases hopen.1⟩
  latest _ _ hopen := by cases hopen.1
  alone before r hprefix := by simp at hprefix

/-- Other requests do not concern the mark. -/
theorem requested (h : Flight p log inFlight) (new : List Request)
    (hnew : ∀ r ∈ new, p r = false) : Flight p (log ++ new.map .sent) inFlight := by
  have hbefore {i : Nat} {r : Request} (hopen : Outstanding (log ++ new.map .sent) i r)
      (hr : p r = true) : Outstanding log i r := by
    obtain hbefore | ⟨k, -, hk⟩ := hopen.of_sent
    · exact hbefore
    · rw [hnew r (List.mem_of_getElem? hk)] at hr
      cases hr
  refine ⟨?_, fun i r hopen hr => ?_, fun before r hprefix hr => ?_⟩
  · rw [h.out]
    constructor
    · rintro ⟨i, r, hopen, hr⟩
      exact ⟨i, r, hopen.sent new, hr⟩
    · rintro ⟨i, r, hopen, hr⟩
      exact ⟨i, r, hbefore hopen hr, hr⟩
  · rw [requestsIn_sent]
    exact (h.latest i r (hbefore hopen hr) hr).append new hnew
  · obtain hprefix | hmem := sent_prefix_append hprefix
    · exact h.alone before r hprefix hr
    · obtain ⟨r', hr', heq⟩ := List.mem_map.mp hmem
      cases heq
      rw [hnew r hr'] at hr
      cases hr

/-- One that goes out while none is out sets the mark. -/
theorem submitted (h : Flight p log false)
    (hnumbered : ∀ i response, .answered i response ∈ log → i < (requestsIn log).length)
    {r : Request} (hr : p r = true) : Flight p (log ++ [r].map .sent) true := by
  have hfree : ∀ i s, Outstanding log i s → p s = false := by
    intro i s hopen
    rw [← Bool.not_eq_true]
    intro hs
    cases h.out.mpr ⟨i, s, hopen, hs⟩
  have hout : Outstanding (log ++ [r].map .sent) (requestsIn log).length r := by
    refine ⟨by rw [requestsIn_sent, List.getElem?_concat_length], fun response hmem => ?_⟩
    exact Nat.lt_irrefl _ (hnumbered _ response (answered_mem_sent.mp hmem))
  refine ⟨⟨fun _ => ⟨_, r, hout, hr⟩, fun _ => rfl⟩, fun i s hopen hs => ?_,
    fun before s hprefix _ => ?_⟩
  · obtain hbefore | ⟨k, rfl, hk⟩ := hopen.of_sent
    · rw [hfree i s hbefore] at hs
      cases hs
    · obtain rfl : k = 0 := Nat.lt_one_iff.mp (List.getElem?_eq_some_iff.mp hk).1
      rw [Nat.add_zero, requestsIn_sent]
      exact latest_concat _ hr
  · rcases List.prefix_concat_iff.mp hprefix with heq | hprefix
    · obtain ⟨rfl, -⟩ := List.append_inj' heq rfl
      exact hfree
    · exact h.alone before s hprefix ‹_›

/-- What a key does to a form keeps the meaning of the mark. -/
theorem step {form : Form} {inFlight : Bool} {requests : List Request}
    (h : Flight form.kind.asks log form.inFlight)
    (hnumbered : ∀ i response, .answered i response ∈ log → i < (requestsIn log).length)
    (hstep : FormStep form inFlight requests) :
    Flight form.kind.asks (log ++ requests.map .sent) inFlight := by
  cases hstep with
  | idle => exact h.requested [] fun _ hr => absurd hr List.not_mem_nil
  | submitted hfree _ hr => exact submitted (hfree ▸ h) hnumbered hr

/-- An answer takes the mark away if it is to one of them. -/
theorem told (h : Flight p log inFlight) {i : Nat} {request : Request} {response : Response}
    (hopen : Outstanding log i request) :
    Flight p (log ++ [.answered i response]) (inFlight && !p request) := by
  refine ⟨?_, fun j r hj hr => ?_, fun before r hprefix hr => ?_⟩
  · rw [Bool.and_eq_true, Bool.not_eq_true', h.out]
    constructor
    · rintro ⟨⟨j, r, hj, hr⟩, hother⟩
      refine ⟨j, r, outstanding_answered_iff.mpr ⟨hj, ?_⟩, hr⟩
      rintro rfl
      obtain rfl := Option.some.inj (hj.1.symm.trans hopen.1)
      rw [hr] at hother
      cases hother
    · rintro ⟨j, r, hj, hr⟩
      obtain ⟨hbefore, hne⟩ := outstanding_answered_iff.mp hj
      refine ⟨⟨j, r, hbefore, hr⟩, ?_⟩
      rw [← Bool.not_eq_true]
      intro hrequest
      -- both would be the latest
      exact hne ((h.latest j r hbefore hr).unique (h.latest i request hopen hrequest))
  · rw [requestsIn_answered]
    exact h.latest j r (outstanding_answered_iff.mp hj).1 hr
  · obtain hprefix | hmem := sent_prefix_append hprefix
    · exact h.alone before r hprefix hr
    · cases List.mem_singleton.mp hmem

end Flight

/-- A known key is submitted as it would be from the screen. -/
theorem LoginScreen.submitted_flight (apiKey : String) (redirect : Route) :
    let p := submitted apiKey redirect
    Flight p.1.form.kind.asks (p.2.map .sent) p.1.form.inFlight ∧
      ∀ r ∈ p.2, p.1.form.kind.asks r = true ∨ p.1.form.kind.loads r = true := by
  unfold submitted
  dsimp only
  generalize hs : ({ apiKey := TextInput.secret.setValue apiKey, redirect } : LoginScreen) = s
  have hopened : Flight s.form.kind.asks [] s.form.inFlight := hs ▸ Flight.nil
  have hsubmitted := hopened.step (fun _ _ hmem => absurd hmem List.not_mem_nil) s.submit_step
  rw [List.nil_append] at hsubmitted
  exact ⟨hsubmitted, fun r hr => .inl (s.submit_step.asks hr)⟩

-- ==================================================== the screen

namespace Screen

variable {screen screen' : Screen} {form : Form}

/-- A form stays the form that it is, and a key does to it what keys do to forms. -/
theorem form_of_handleKey {key : Key} {e : Effects}
    (h : screen.handleKey key = some (screen', e)) :
    screen'.form?.map Form.kind = screen.form?.map Form.kind ∧
      ∀ form ∈ screen.form?, ∀ form' ∈ screen'.form?, FormStep form form'.inFlight e.requests := by
  cases screen <;> obtain ⟨p, hp, heq⟩ := Option.map_eq_some_iff.mp h <;> cases heq
  case login s | create s | code s | test s =>
      refine ⟨rfl, ?_⟩
      rintro form ⟨⟩ form' ⟨⟩
      exact s.handleKey_step key p hp
  all_goals exact ⟨rfl, nofun⟩

/-- An answer takes the mark away if it is to a submission, and what goes out then loads. -/
theorem form_of_handleResponse (screen : Screen) (response : Response) :
    let p := screen.handleResponse response
    p.1.form?.map Form.kind = screen.form?.map Form.kind ∧
      ∀ form ∈ screen.form?, ∀ form' ∈ p.1.form?,
        form'.inFlight = (form.inFlight && !form.kind.tells response) ∧
          ∀ r ∈ p.2.requests, form.kind.loads r = true := by
  cases screen with
  | login s | create s | code s | test s =>
      refine ⟨rfl, ?_⟩
      rintro form ⟨⟩ form' ⟨⟩
      exact s.handleResponse_mark response
  | _ => exact ⟨rfl, nofun⟩

/-- The opening of a form: it loads something, or nothing, or submits a known key. -/
theorem Opens.flight {requests : List Request} (h : Opens screen requests) :
    ∀ form ∈ screen.form?, Flight form.kind.asks (requests.map .sent) form.inFlight ∧
      ∀ r ∈ requests, form.kind.asks r = true ∨ form.kind.loads r = true := by
  cases h with
  | address ctx route =>
      cases route with
      | login | create =>
          rintro form ⟨⟩
          exact ⟨Flight.nil, fun r hr => absurd hr List.not_mem_nil⟩
      | code id | test id =>
          rintro form ⟨⟩
          refine ⟨Flight.nil.requested [.getFunction id] fun r hr => ?_, fun r hr => .inr ?_⟩
          all_goals
            obtain rfl := List.mem_singleton.mp hr
            rfl
      | _ => nofun
  | login redirect =>
      rintro form ⟨⟩
      exact ⟨Flight.nil, fun r hr => absurd hr List.not_mem_nil⟩
  | submitted apiKey redirect =>
      rintro form ⟨⟩
      exact LoginScreen.submitted_flight apiKey redirect

/-- All along, the mark says what it says, and only what is submitted or loaded goes out. -/
theorem History.flight {log : List Exchange} (h : History log screen) :
    ∀ form ∈ screen.form?, Flight form.kind.asks log form.inFlight ∧
      ∀ r ∈ requestsIn log, form.kind.asks r = true ∨ form.kind.loads r = true := by
  induction h with
  | @opened screen requests hopens =>
      have hrequests : requestsIn (requests.map .sent) = requests := requestsIn_sent [] requests
      rw [hrequests]
      exact hopens.flight
  | @key log screen screen' key e hpast hkey ih =>
      intro form' hform'
      obtain ⟨hkind, hstep⟩ := form_of_handleKey hkey
      rw [Option.mem_def.mp hform'] at hkind
      obtain ⟨form, hform, hsame⟩ := Option.map_eq_some_iff.mp hkind.symm
      obtain ⟨hflight, hsent⟩ := ih form hform
      have hform := hstep form hform form' hform'
      rw [← hsame, requestsIn_sent]
      refine ⟨hflight.step hpast.numbered hform, fun r hr => ?_⟩
      rcases List.mem_append.mp hr with hr | hr
      · exact hsent r hr
      · exact .inl (hform.asks hr)
  | @answered log screen i request response hpast hopen hanswered ih =>
      intro form' hform'
      obtain ⟨hkind, hmark⟩ := screen.form_of_handleResponse response
      rw [Option.mem_def.mp hform'] at hkind
      obtain ⟨form, hform, hsame⟩ := Option.map_eq_some_iff.mp hkind.symm
      obtain ⟨hflight, hsent⟩ := ih form hform
      obtain ⟨hinFlight, hloads⟩ := hmark form hform form' hform'
      have htells := hanswered.tells_eq (hsent request (List.mem_of_getElem? hopen.1))
      rw [← hsame, hinFlight, htells, requestsIn_sent, requestsIn_answered]
      refine ⟨(hflight.told hopen).requested _ fun r hr => Submission.asks_of_loads (hloads r hr),
        fun r hr => ?_⟩
      rcases List.mem_append.mp hr with hr | hr
      · exact hsent r hr
      · exact .inr (hloads r hr)

/-- The control key sends what is ready, unless a submission is out. -/
theorem form_submits {form : Form} (hform : screen.form? = some form)
    (hfree : form.inFlight = false) (hready : form.ready = true) :
    ∃ screen' e r, screen.handleKey (.ctrl 's') = some (screen', e) ∧ e.requests = [r] ∧
      form.kind.asks r = true := by
  cases screen with
  | login s | create s | code s | test s =>
      cases hform
      obtain ⟨r, hr, hasks⟩ := s.submits_ready hfree hready
      exact ⟨_, _, r, rfl, hr, hasks⟩
  | _ => cases hform

end Screen

/-- Submissions are made one at a time. Whatever keys a form has been given, and in whatever order
its requests were answered: its mark is set exactly while a submission is out, there is never more
than one, and none has ever gone out beside another. While one is out, or where the form's own check
rejects what was typed, no key sends anything, and the mark stays as it is; otherwise the control
key submits. Besides its submissions a form sends only what loads what it shows. -/
theorem submissions_are_single_flight {log : List Exchange} {screen : Screen} {form : Form}
    (h : Screen.History log screen) (hform : screen.form? = some form) :
    (form.inFlight = true ↔ ∃ i r, Outstanding log i r ∧ form.kind.asks r = true) ∧
    (∀ i j r s, Outstanding log i r → form.kind.asks r = true → Outstanding log j s →
      form.kind.asks s = true → i = j) ∧
    SingleFlight form.kind.asks log ∧
    (∀ key screen' e, screen.handleKey key = some (screen', e) →
      form.inFlight = true ∨ form.ready = false →
        e.requests = [] ∧ screen'.form?.map Form.inFlight = some form.inFlight) ∧
    (form.inFlight = false → form.ready = true →
      ∃ screen' e r, screen.handleKey (.ctrl 's') = some (screen', e) ∧ e.requests = [r] ∧
        form.kind.asks r = true) ∧
    ∀ r ∈ requestsIn log, form.kind.asks r = true ∨ form.kind.loads r = true := by
  obtain ⟨hflight, hsent⟩ := h.flight form hform
  refine ⟨hflight.out, fun i j r s hi hr hj hs => ?_, hflight.alone,
    fun key screen' e hkey hheld => ?_, Screen.form_submits hform, hsent⟩
  · exact (hflight.latest i r hi hr).unique (hflight.latest j s hj hs)
  · obtain ⟨hkind, hstep⟩ := Screen.form_of_handleKey hkey
    rw [hform] at hkind
    obtain ⟨form', hform', -⟩ := Option.map_eq_some_iff.mp hkind
    have hstep := hstep form hform form' hform'
    rw [hform', Option.map_some]
    generalize form'.inFlight = inFlight, e.requests = requests at hstep
    cases hstep with
    | idle => exact ⟨rfl, rfl⟩
    | submitted hfree hready _ => simp [hfree, hready] at hheld

-- ==================================================== a call that is made twice

namespace TestScreen

/-- The screen on which a function is called, with its call as it is at first. -/
def first : TestScreen := (enter "f" default).1

def firstCall : Request :=
  .invoke "f" { headers := .ofList [("Content-Type", "application/json")] }

/-- The function was not to be had, and the call is out. -/
def calling : TestScreen := { first with function := .notFound, sending := true }

def callLog : List Exchange :=
  [.sent (.getFunction "f"), .sent firstCall, .answered 0 (.function (.error (.network "refused")))]

theorem history_calling : Screen.History callLog (.test calling) := by
  have hopened : Screen.History [.sent (.getFunction "f")] (.test first) :=
    .opened (.address default (.test "f"))
  have hcalled := hopened.press (.ctrl 's') (.test { first with sending := true }) [firstCall]
    (by decide +kernel)
  exact hcalled.receive 0 (.function (.error (.network "refused"))) ⟨rfl, by simp⟩
    ⟨refusingServer (.network "refused"), rfl⟩ rfl rfl

end TestScreen

open TestScreen in
/-- While a call is out, the answer to another request comes. The call is still the one that is out,
and no key sends anything. -/
theorem no_call_beside_call :
    Screen.History callLog (.test calling) ∧ calling.form.inFlight = true ∧
      Outstanding callLog 1 firstCall ∧
      (∀ i r, Outstanding callLog i r → Submission.call.asks r = true → i = 1) ∧
      ∀ key screen' e, (Screen.test calling).handleKey key = some (screen', e) →
        e.requests = [] := by
  have hopen : Outstanding callLog 1 firstCall := ⟨rfl, by simp [callLog]⟩
  obtain ⟨-, honly, -, hkeys, -⟩ := submissions_are_single_flight history_calling rfl
  exact ⟨history_calling, rfl, hopen, fun i r hi hr => honly i 1 r firstCall hi hr hopen rfl,
    fun key screen' e hkey => (hkeys key screen' e hkey (.inl rfl)).1⟩

end FunctionConsole
