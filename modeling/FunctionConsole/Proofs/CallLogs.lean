import FunctionConsole.Proofs.Submissions

/-!
# Logs of a call

The test screen shows what a call was answered, and under it the logs of the execution that the
answer names. The logs are asked for when the answer comes, and arrive later. A new call clears
both; but nothing tells the logs of one call from those of another when they arrive, and logs that
are still on their way when the next call goes out are then shown as if they were that one's
(`Overtaken`).

`CallLogs` is the invariant along everything that happens on the screen.
`logs_belong_unless_overtaken` says exactly when the logs that are shown belong to the call that is
shown, and that they always do where no call is made while logs are on their way.
-/

namespace FunctionConsole

-- ==================================================== calls and their logs

namespace Request

/-- Whether a request calls the function. -/
def calls (r : Request) : Bool := Submission.call.asks r

/-- Whether a request asks for the logs of an execution. -/
def asksLogs : Request → Bool
  | .executionLogs _ _ _ => true
  | _ => false

theorem asksLogs_of_calls {r : Request} (h : r.calls = true) : r.asksLogs = false := by
  cases r with
  | invoke => rfl
  | _ => cases h

end Request

/-- What is shown as the logs when they have come, or were not to be had. -/
def logsOf : ApiError.Result LogList → Loadable LogList
  | .ok list => .loaded list
  | .error _ => .notFound

theorem logsOf_ne_loading (result : ApiError.Result LogList) : logsOf result ≠ .loading := by
  cases result with
  | ok list | error e =>
      intro heq
      cases heq

namespace Exchange

/-- Whether an exchange has a say in the logs that are shown: a call, an answer that names its
execution, and the answer to a request for logs. -/
def concernsLogs : Exchange → Bool
  | .sent r => r.calls
  | .answered _ (.invoked (.ok r)) => r.executionId.isSome
  | .answered _ (.logs _ _) => true
  | .answered _ _ => false

/-- The logs that are shown after it. -/
def logs? : Exchange → Option (Loadable LogList)
  | .answered _ (.invoked _) => some .loading
  | .answered _ (.logs _ result) => some (logsOf result)
  | _ => none

end Exchange

/-- The exchange that last had a say in the logs. -/
def lastOnLogs? (log : List Exchange) : Option Exchange :=
  (log.filter Exchange.concernsLogs).getLast?

/-- Request number `i` asks for the logs of an execution. -/
def AsksLogs (log : List Exchange) (i : Nat) (execution : String) : Prop :=
  ∃ limit offset, (requestsIn log)[i]? = some (.executionLogs execution limit offset)

/-- No call has been made since request number `i`. -/
def OfLastCall (log : List Exchange) (i : Nat) : Prop :=
  ∀ r ∈ (requestsIn log).drop i, r.calls = false

/-- What was last told about logs is the answer to request number `i`. -/
def LogsTold (log : List Exchange) (i : Nat) (result : ApiError.Result LogList) : Prop :=
  ∃ page, lastOnLogs? log = some (.answered i (.logs page result))

/-- What was last told about logs are those of a call that another one has followed. -/
def Overtaken (log : List Exchange) : Prop :=
  ∃ i result, LogsTold log i result ∧ ¬ OfLastCall log i

/-- No call was made while logs were on their way. -/
def Patient (log : List Exchange) : Prop :=
  ∀ before r, before ++ [.sent r] <+: log → r.calls = true →
    ∀ i s, Outstanding before i s → s.asksLogs = false

/-- The logs belong to the call that is shown. Without an answer there are none. Where they have
come, or were not to be had, the answer names an execution, and they are the answer to the request
for the logs of that execution that was made on it. -/
structure LogsBelong (log : List Exchange) (s : TestScreen) : Prop where
  unanswered : s.response = none → s.logs = none
  own : ∀ logs, s.logs = some logs → logs ≠ .loading → ∃ r execution i result,
    s.response = some r ∧ r.executionId = some execution ∧ AsksLogs log i execution ∧
      OfLastCall log i ∧ LogsTold log i result ∧ logs = logsOf result

section

variable {log : List Exchange} {i : Nat} {r : Request} {execution : String}

-- What comes to the end of a log.

@[simp] theorem lastOnLogs?_nil : lastOnLogs? [] = none := rfl

theorem lastOnLogs?_concat (log : List Exchange) (e : Exchange) :
    lastOnLogs? (log ++ [e]) = if e.concernsLogs then some e else lastOnLogs? log := by
  rw [lastOnLogs?, List.filter_append]
  -- the filter keeps the last exchange or not
  cases he : e.concernsLogs with
  | true => rw [List.filter_cons_of_pos he, List.filter_nil, List.getLast?_concat, if_pos rfl]
  | false =>
      have hnot : ¬ e.concernsLogs = true := by simp [he]
      rw [List.filter_cons_of_neg hnot, List.filter_nil, List.append_nil]
      rfl

/-- Requests that are no calls have no say. -/
theorem lastOnLogs?_sent {new : List Request} (hnew : ∀ r ∈ new, r.calls = false) :
    lastOnLogs? (log ++ new.map .sent) = lastOnLogs? log := by
  have hnone : (new.map Exchange.sent).filter Exchange.concernsLogs = [] := by
    rw [List.filter_eq_nil_iff]
    intro e he
    obtain ⟨r, hr, rfl⟩ := List.mem_map.mp he
    show ¬ r.calls = true
    rw [hnew r hr]
    exact Bool.false_ne_true
  rw [lastOnLogs?, List.filter_append, hnone, List.append_nil]
  rfl

theorem requestsIn_concat (log : List Exchange) (r : Request) :
    requestsIn (log ++ [.sent r]) = requestsIn log ++ [r] :=
  requestsIn_sent log [r]

theorem AsksLogs.sent (h : AsksLogs log i execution) (new : List Request) :
    AsksLogs (log ++ new.map .sent) i execution := by
  obtain ⟨limit, offset, hr⟩ := h
  refine ⟨limit, offset, ?_⟩
  rw [requestsIn_sent, List.getElem?_append_left (List.getElem?_eq_some_iff.mp hr).1, hr]

theorem asksLogs_answered {j : Nat} {response : Response} :
    AsksLogs (log ++ [.answered j response]) i execution ↔ AsksLogs log i execution := by
  rw [AsksLogs, requestsIn_answered]
  rfl

theorem ofLastCall_answered {j : Nat} {response : Response} :
    OfLastCall (log ++ [.answered j response]) i ↔ OfLastCall log i := by
  rw [OfLastCall, requestsIn_answered]
  rfl

/-- Requests that are no calls leave the last call the last one. -/
theorem ofLastCall_sent {new : List Request} (hnew : ∀ r ∈ new, r.calls = false) :
    OfLastCall (log ++ new.map .sent) i ↔ OfLastCall log i := by
  rw [OfLastCall, requestsIn_sent, List.drop_append]
  constructor
  · intro h r hr
    exact h r (List.mem_append_left _ hr)
  · intro h r hr
    rcases List.mem_append.mp hr with hr | hr
    · exact h r hr
    · exact hnew r (List.mem_of_mem_drop hr)

/-- After a call no logs that were asked for before are those of the last one. -/
theorem not_ofLastCall_called (hr : r.calls = true) (hi : i ≤ (requestsIn log).length) :
    ¬ OfLastCall (log ++ [.sent r]) i := by
  intro h
  have hmem : r ∈ (requestsIn (log ++ [.sent r])).drop i := by
    rw [requestsIn_concat, List.drop_append_of_le_length hi]
    exact List.mem_append_right _ List.mem_cons_self
  rw [h r hmem] at hr
  cases hr

theorem Request.Answered.calls {result : ApiError.Result InvokeResponse}
    (h : r.Answered (.invoked result)) : r.calls = true := by
  obtain ⟨b, heq⟩ := h
  cases r with
  | invoke => rfl
  | _ => cases heq

theorem Request.Answered.asksLogs {page : PageState} {result : ApiError.Result LogList}
    (h : r.Answered (.logs page result)) :
    ∃ execution, r = .executionLogs execution page.limit page.offset := by
  obtain ⟨b, heq⟩ := h
  cases r with
  | executionLogs execution limit offset =>
      cases heq
      exact ⟨execution, rfl⟩
  | _ => cases heq

theorem AsksLogs.lt (h : AsksLogs log i execution) : i < (requestsIn log).length := by
  obtain ⟨limit, offset, hr⟩ := h
  exact (List.getElem?_eq_some_iff.mp hr).1

/-- What asks for logs after more requests did so before, or is one of them. -/
theorem AsksLogs.of_sent {new : List Request} (h : AsksLogs (log ++ new.map .sent) i execution) :
    AsksLogs log i execution ∨ ∃ k limit offset, i = (requestsIn log).length + k ∧
      new[k]? = some (.executionLogs execution limit offset) := by
  obtain ⟨limit, offset, hr⟩ := h
  rw [requestsIn_sent] at hr
  obtain hi | hi := Nat.lt_or_ge i (requestsIn log).length
  · rw [List.getElem?_append_left hi] at hr
    exact .inl ⟨limit, offset, hr⟩
  · rw [List.getElem?_append_right hi] at hr
    exact .inr ⟨_, limit, offset, (Nat.add_sub_cancel' hi).symm, hr⟩

theorem AsksLogs.before {new : List Request} (h : AsksLogs (log ++ new.map .sent) i execution)
    (hnew : ∀ r ∈ new, r.asksLogs = false) : AsksLogs log i execution := by
  obtain h | ⟨k, limit, offset, -, hk⟩ := h.of_sent
  · exact h
  · cases hnew _ (List.mem_of_getElem? hk)

theorem Patient.of_append {more : List Exchange} (h : Patient (log ++ more)) : Patient log :=
  fun before r hsent => h before r (hsent.trans (List.prefix_append log more))

end

-- ==================================================== the test screen

namespace Screen

/-- After a key the test screen is shown only if it was before. -/
theorem test_of_handleKey {screen : Screen} {s' : TestScreen} {key : Key} {e : Effects}
    (h : screen.handleKey key = some (.test s', e)) :
    ∃ s, screen = .test s ∧ s.handleKey key = some (s', e) := by
  cases screen with
  | test s =>
      obtain ⟨⟨_, _⟩, hkey, heq⟩ := Option.map_eq_some_iff.mp h
      cases heq
      exact ⟨s, rfl, hkey⟩
  | _ =>
      obtain ⟨_, -, heq⟩ := Option.map_eq_some_iff.mp h
      cases heq

theorem test_of_handleResponse {screen : Screen} {s' : TestScreen} {response : Response}
    (h : (screen.handleResponse response).1 = .test s') :
    ∃ s, screen = .test s ∧ (s.handleResponse response).1 = s' := by
  cases screen with
  | test s => exact ⟨s, rfl, Screen.test.inj h⟩
  | _ => cases h

end Screen

namespace TestScreen

/-- A key leaves the call that is shown as it is, or makes the next one and clears the logs. -/
theorem handleKey_call (s : TestScreen) (key : Key) : ∀ p ∈ s.handleKey key,
    (p.2.requests = [] ∧ p.1.sending = s.sending ∧ p.1.response = s.response ∧
      p.1.logs = s.logs) ∨
    ∃ r, p.2.requests = [r] ∧ r.calls = true ∧ p.1.logs = none := by
  intro p hp
  obtain rfl | ⟨hnone, hkept⟩ := s.handleKey_cases key p hp
  · unfold send
    split
    · exact .inl ⟨rfl, rfl, rfl, rfl⟩
    · split
      · exact .inl ⟨rfl, rfl, rfl, rfl⟩
      · exact .inr ⟨_, rfl, rfl, rfl⟩
  · exact .inl ⟨by rw [hnone]; rfl, hkept⟩

end TestScreen

/-- What the test screen shows of its calls, by what has passed. The logs are those that were told
last. There is an answer wherever logs are loading, and wherever the logs of the last call have been
asked for; the answer then names their execution. While a call is out its logs have not been asked
for. Where no call was made while logs were on their way, those that are on their way, and those
that have come, are those of the last call. -/
structure CallLogs (log : List Exchange) (s : TestScreen) : Prop where
  logs : s.logs = (lastOnLogs? log).bind Exchange.logs?
  loading : s.logs = some .loading → s.response.isSome = true
  own : ∀ i execution, AsksLogs log i execution → OfLastCall log i →
    ∃ r, s.response = some r ∧ r.executionId = some execution
  busy : s.sending = true → ∀ i execution, AsksLogs log i execution → ¬ OfLastCall log i
  told : ∀ i page result, .answered i (.logs page result) ∈ log →
    ∃ execution, AsksLogs log i execution
  awaited : Patient log → ∀ i r, Outstanding log i r → r.asksLogs = true → OfLastCall log i
  patient : Patient log → ¬ Overtaken log

namespace CallLogs

variable {log : List Exchange} {s s' : TestScreen}

theorem nil (hlogs : s.logs = none) : CallLogs [] s where
  logs := hlogs
  loading hloading := by simp [hlogs] at hloading
  own _ _ hasks := by cases hasks.choose_spec.choose_spec
  busy _ _ _ hasks := by cases hasks.choose_spec.choose_spec
  told _ _ _ hmem := by cases hmem
  awaited _ _ _ hopen := by cases hopen.1
  patient _ := fun ⟨_, _, ⟨_, hlast⟩, _⟩ => by cases hlast

/-- What else is on the screen does not matter. -/
theorem same (h : CallLogs log s) (hsending : s'.sending = s.sending)
    (hresponse : s'.response = s.response) (hlogs : s'.logs = s.logs) : CallLogs log s' where
  logs := hlogs ▸ h.logs
  loading := by rw [hlogs, hresponse]; exact h.loading
  own := by rw [hresponse]; exact h.own
  busy := by rw [hsending]; exact h.busy
  told := h.told
  awaited := h.awaited
  patient := h.patient

/-- Requests that are no calls change nothing, if logs are asked for only of the execution that the
answer names. -/
theorem requested (h : CallLogs log s) {new : List Request}
    (hcalls : ∀ r ∈ new, r.calls = false)
    (hlogs : ∀ execution limit offset, .executionLogs execution limit offset ∈ new →
      s.sending = false ∧ ∃ r, s.response = some r ∧ r.executionId = some execution) :
    CallLogs (log ++ new.map .sent) s where
  logs := by rw [lastOnLogs?_sent hcalls, h.logs]
  loading := h.loading
  own i execution hasks hof := by
    obtain hbefore | ⟨k, limit, offset, -, hk⟩ := hasks.of_sent
    · exact h.own i execution hbefore ((ofLastCall_sent hcalls).mp hof)
    · exact (hlogs execution limit offset (List.mem_of_getElem? hk)).2
  busy hsending i execution hasks := by
    rw [ofLastCall_sent hcalls]
    obtain hbefore | ⟨k, limit, offset, -, hk⟩ := hasks.of_sent
    · exact h.busy hsending i execution hbefore
    · rw [(hlogs execution limit offset (List.mem_of_getElem? hk)).1] at hsending
      cases hsending
  told i page result hmem := by
    obtain ⟨execution, hasks⟩ := h.told i page result (answered_mem_sent.mp hmem)
    exact ⟨execution, hasks.sent new⟩
  awaited hpatient i r hopen hr := by
    rw [ofLastCall_sent hcalls]
    obtain hbefore | ⟨k, rfl, -⟩ := hopen.of_sent
    · exact h.awaited hpatient.of_append i r hbefore hr
    · -- nothing has gone out after it
      intro r hr
      rw [List.drop_eq_nil_of_le (Nat.le_add_right _ k)] at hr
      cases hr
  patient hpatient := by
    rintro ⟨i, result, ⟨page, hlast⟩, hnot⟩
    rw [lastOnLogs?_sent hcalls] at hlast
    rw [ofLastCall_sent hcalls] at hnot
    exact h.patient hpatient.of_append ⟨i, result, ⟨page, hlast⟩, hnot⟩

/-- A call clears what is shown of the one before. -/
theorem called (h : CallLogs log s) {r : Request} (hr : r.calls = true) (hlogs : s'.logs = none) :
    CallLogs (log ++ [r].map .sent) s' := by
  have hlast : lastOnLogs? (log ++ [r].map .sent) = some (.sent r) := by
    rw [List.map_singleton, lastOnLogs?_concat]
    exact if_pos hr
  have hother : ∀ q ∈ [r], q.asksLogs = false := by
    rintro q hq
    obtain rfl := List.mem_singleton.mp hq
    exact Request.asksLogs_of_calls hr
  -- whatever logs have been asked for are those of a call before
  have hnot : ∀ i execution, AsksLogs (log ++ [r].map .sent) i execution →
      ¬ OfLastCall (log ++ [r].map .sent) i := fun i execution hasks =>
    not_ofLastCall_called hr (Nat.le_of_lt (hasks.before hother).lt)
  exact {
    logs := by rw [hlast, hlogs]; rfl
    loading := fun hloading => by simp [hlogs] at hloading
    own := fun i execution hasks hof => absurd hof (hnot i execution hasks)
    busy := fun _ => hnot
    told := fun i page result hmem => by
      obtain ⟨execution, hasks⟩ := h.told i page result (answered_mem_sent.mp hmem)
      exact ⟨execution, hasks.sent [r]⟩
    awaited := fun hpatient i q hopen hq => by
      -- a patient log has no request for logs open at its call
      obtain hbefore | ⟨k, -, hk⟩ := hopen.of_sent
      · rw [hpatient log r List.prefix_rfl hr i q hbefore] at hq
        cases hq
      · rw [hother q (List.mem_of_getElem? hk)] at hq
        cases hq
    patient := fun _ ⟨i, result, ⟨page, htold⟩, _⟩ => by
      rw [hlast] at htold
      cases htold }

/-- An answer takes the mark away or leaves it, and the call that is out may get its answer with it;
the logs become what it tells of them. -/
theorem answered (h : CallLogs log s) {i : Nat} {request : Request} {response : Response}
    (hopen : Outstanding log i request) (hanswered : request.Answered response)
    (hsending : s'.sending = true → s.sending = true)
    (hresponse : s'.response = s.response ∨ s.sending = true ∧ s'.response.isSome = true)
    (hlogs : s'.logs = if (Exchange.answered i response).concernsLogs then
      (Exchange.answered i response).logs? else s.logs)
    (hloading : (Exchange.answered i response).logs? = some .loading →
      (Exchange.answered i response).concernsLogs = true → s'.response.isSome = true) :
    CallLogs (log ++ [.answered i response]) s' where
  logs := by
    rw [hlogs, h.logs, lastOnLogs?_concat]
    split <;> rfl
  loading hshown := by
    cases hconcerns : (Exchange.answered i response).concernsLogs with
    | true =>
        rw [hlogs, if_pos hconcerns] at hshown
        exact hloading hshown hconcerns
    | false =>
        rw [hlogs, hconcerns] at hshown
        obtain hsame | ⟨-, hsome⟩ := hresponse
        · rw [hsame]
          exact h.loading hshown
        · exact hsome
  own j execution hasks hof := by
    rw [asksLogs_answered] at hasks
    rw [ofLastCall_answered] at hof
    obtain hsame | ⟨hout, -⟩ := hresponse
    · rw [hsame]
      exact h.own j execution hasks hof
    · -- the call was still out, so that its logs have not been asked for
      exact absurd hof (h.busy hout j execution hasks)
  busy hout j execution hasks := by
    rw [asksLogs_answered] at hasks
    rw [ofLastCall_answered]
    exact h.busy (hsending hout) j execution hasks
  told j page result hmem := by
    simp only [asksLogs_answered]
    rcases List.mem_append.mp hmem with hmem | hmem
    · exact h.told j page result hmem
    · cases List.mem_singleton.mp hmem
      obtain ⟨execution, rfl⟩ := hanswered.asksLogs
      exact ⟨execution, _, _, hopen.1⟩
  awaited hpatient j r hj hr := by
    rw [ofLastCall_answered]
    exact h.awaited hpatient.of_append j r (outstanding_answered_iff.mp hj).1 hr
  patient hpatient := by
    rintro ⟨j, result, ⟨page, hlast⟩, hnot⟩
    rw [lastOnLogs?_concat] at hlast
    rw [ofLastCall_answered] at hnot
    split at hlast
    · -- what was told last are the logs that have just come
      cases hlast
      obtain ⟨execution, rfl⟩ := hanswered.asksLogs
      exact hnot (h.awaited hpatient.of_append i _ hopen rfl)
    · exact h.patient hpatient.of_append ⟨j, result, ⟨page, hlast⟩, hnot⟩

theorem quiet {e : Effects} (hrequests : e.requests = []) (h : CallLogs log s) :
    CallLogs (log ++ e.requests.map .sent) s := by
  rw [hrequests, List.map_nil, List.append_nil]
  exact h

theorem handleKey (h : CallLogs log s) {key : Key} {e : Effects}
    (hkey : s.handleKey key = some (s', e)) : CallLogs (log ++ e.requests.map .sent) s' := by
  obtain ⟨hrequests, hsending, hresponse, hlogs⟩ | ⟨r, hrequests, hr, hlogs⟩ :=
    s.handleKey_call key _ hkey
  · exact quiet hrequests (h.same hsending hresponse hlogs)
  · rw [hrequests]
    exact h.called hr hlogs

/-- The call that is out is answered; if the answer names an execution, its logs are asked for. -/
theorem handleInvoked (h : CallLogs log s) (hout : s.sending = true) {i : Nat} {request : Request}
    {result : ApiError.Result InvokeResponse} (hopen : Outstanding log i request)
    (hanswered : request.Answered (.invoked result)) :
    CallLogs (log ++ [.answered i (.invoked result)] ++
      (s.handleResponse (.invoked result)).2.requests.map .sent)
      (s.handleResponse (.invoked result)).1 := by
  cases result with
  | error e =>
      refine quiet rfl (h.answered hopen hanswered ?_ (.inl rfl) rfl fun _ hconcerns => ?_)
      · intro hsending
        cases hsending
      · cases hconcerns
  | ok r =>
      rw [TestScreen.handleResponse]
      cases hid : r.executionId with
      | none =>
          refine quiet rfl (h.answered hopen hanswered ?_ (.inr ⟨hout, rfl⟩) ?_ fun _ _ => rfl)
          · intro hsending
            cases hsending
          · rw [Exchange.concernsLogs, hid]
            rfl
      | some execution =>
          have hcalls : ∀ q ∈ [Request.executionLogs execution TestScreen.logLimit 0],
              q.calls = false := by simp [Request.calls, Submission.asks]
          refine (h.answered hopen hanswered ?_ (.inr ⟨hout, rfl⟩) ?_ fun _ _ => rfl).requested
            hcalls fun execution' _ _ hmem => ?_
          · intro hsending
            cases hsending
          · rw [Exchange.concernsLogs, hid]
            rfl
          · cases List.mem_singleton.mp hmem
            exact ⟨rfl, r, rfl, hid⟩

theorem handleResponse (h : CallLogs log s)
    (hflight : Flight Submission.call.asks log s.sending) {i : Nat} {request : Request}
    {response : Response} (hopen : Outstanding log i request)
    (hanswered : request.Answered response) :
    CallLogs (log ++ [.answered i response] ++
      (s.handleResponse response).2.requests.map .sent) (s.handleResponse response).1 := by
  cases response with
  | invoked result =>
      -- the call that is answered is the one that is out
      have hout : s.sending = true := hflight.out.mpr ⟨i, request, hopen, hanswered.calls⟩
      exact h.handleInvoked hout hopen hanswered
  | logs page result =>
      have hcame := logsOf_ne_loading result
      cases result with
      | ok list | error e =>
          exact quiet rfl (h.answered hopen hanswered id (.inl rfl) rfl
            fun hloading _ => absurd (Option.some.inj hloading) hcame)
  | function result =>
      cases result with
      | ok f | error e =>
          exact quiet rfl (h.answered hopen hanswered id (.inl rfl) rfl
            fun _ hconcerns => by cases hconcerns)
  | _ =>
      exact quiet rfl (h.answered hopen hanswered id (.inl rfl) rfl
        fun _ hconcerns => by cases hconcerns)

theorem of_opens {screen : Screen} {requests : List Request} (h : Screen.Opens screen requests) :
    ∀ s, screen = .test s → CallLogs (requests.map .sent) s := by
  intro s hs
  cases h with
  | address ctx route =>
      cases route with
      | test id =>
          cases hs
          have hcalls : ∀ r ∈ [Request.getFunction id], r.calls = false := by
            simp [Request.calls, Submission.asks]
          exact (nil rfl).requested hcalls fun _ _ _ hmem => by cases List.mem_singleton.mp hmem
      | _ => cases hs
  | login redirect | submitted apiKey redirect => cases hs

/-- All along, the test screen shows of its calls what it should. -/
theorem of_history {log : List Exchange} {screen : Screen} (h : Screen.History log screen) :
    ∀ s, screen = .test s → CallLogs log s := by
  induction h with
  | opened hopens => exact of_opens hopens
  | key _ hkey ih =>
      rintro s' rfl
      obtain ⟨s, hs, hkey⟩ := Screen.test_of_handleKey hkey
      exact (ih s hs).handleKey hkey
  | answered hpast hopen hanswered ih =>
      intro s' hs'
      obtain ⟨s, rfl, rfl⟩ := Screen.test_of_handleResponse hs'
      exact (ih s rfl).handleResponse (hpast.flight s.form rfl).1 hopen hanswered

/-- The exchange that is behind logs that have come is an answer to a request for logs. -/
theorem told_of_shown (h : CallLogs log s) {logs : Loadable LogList} (hlogs : s.logs = some logs)
    (hcame : logs ≠ .loading) : ∃ execution i result,
      AsksLogs log i execution ∧ LogsTold log i result ∧ logs = logsOf result := by
  rw [h.logs] at hlogs
  obtain ⟨e, hlast, he⟩ := Option.bind_eq_some_iff.mp hlogs
  cases e with
  | sent r => cases he
  | answered i response =>
      cases response with
      | logs page result =>
          cases he
          have hmem := (List.mem_filter.mp (List.mem_of_getLast? hlast)).1
          obtain ⟨execution, hasks⟩ := h.told i page result hmem
          exact ⟨execution, i, result, hasks, ⟨page, hlast⟩, rfl⟩
      | invoked result =>
          cases he
          exact absurd rfl hcame
      | _ => cases he

/-- Logs that no call has followed belong to the call that is shown. -/
theorem belong (h : CallLogs log s) (hcurrent : ¬ Overtaken log) : LogsBelong log s := by
  -- logs that have come are of the last call, and its answer is still there
  have hown : ∀ logs, s.logs = some logs → logs ≠ .loading → ∃ r execution i result,
      s.response = some r ∧ r.executionId = some execution ∧ AsksLogs log i execution ∧
        OfLastCall log i ∧ LogsTold log i result ∧ logs = logsOf result := by
    intro logs hlogs hcame
    obtain ⟨execution, i, result, hasks, htold, heq⟩ := h.told_of_shown hlogs hcame
    have hof : OfLastCall log i := not_not.mp fun hnot => hcurrent ⟨i, result, htold, hnot⟩
    obtain ⟨r, hresponse, hid⟩ := h.own i execution hasks hof
    exact ⟨r, execution, i, result, hresponse, hid, hasks, hof, htold, heq⟩
  refine ⟨fun hnone => ?_, hown⟩
  rw [Option.eq_none_iff_forall_ne_some]
  intro logs hlogs
  by_cases hloading : logs = .loading
  · have hsome := h.loading (hloading ▸ hlogs)
    rw [hnone] at hsome
    cases hsome
  · obtain ⟨r, -, -, -, hsome, -⟩ := hown logs hlogs hloading
    rw [hnone] at hsome
    cases hsome

/-- Logs that belong to the call that is shown are those of the last one. -/
theorem current (h : CallLogs log s) (hbelong : LogsBelong log s) : ¬ Overtaken log := by
  rintro ⟨i, result, ⟨page, hlast⟩, hnot⟩
  have hlogs : s.logs = some (logsOf result) := by rw [h.logs, hlast]; rfl
  obtain ⟨_, _, _, _, -, -, -, hof, ⟨_, hlast'⟩, -⟩ :=
    hbelong.own _ hlogs (logsOf_ne_loading result)
  cases hlast.symm.trans hlast'
  exact hnot hof

end CallLogs

-- ==================================================== a call on which logs come late

namespace TestScreen

/-- What the first call is answered. -/
def answer : InvokeResponse := { status := 200, executionId := some "e" }

def lines : LogList := ⟨[⟨1, "e", .info, "done", 0⟩], ⟨1, 100, 0⟩⟩

def server : Backend Id :=
  { refusingServer (.network "refused") with
    invoke := fun _ _ => .ok answer
    executionLogs := fun _ _ _ => .ok lines }

/-- What has passed until the logs of the first call are asked for. -/
def askedLog : List Exchange :=
  [.sent (.getFunction "f"), .sent firstCall, .answered 1 (.invoked (.ok answer)),
    .sent (.executionLogs "e" 100 0)]

def answeredLogs : Exchange := .answered 2 (.logs ⟨100, 0⟩ (.ok lines))

theorem history_asked : Screen.History askedLog
    (.test { first with response := some answer, logs := some .loading }) := by
  have hopened : Screen.History [.sent (.getFunction "f")] (.test first) :=
    .opened (.address default (.test "f"))
  have hcalled := hopened.press (.ctrl 's') (.test { first with sending := true }) [firstCall]
    (by decide +kernel)
  exact hcalled.receive 1 (.invoked (.ok answer)) ⟨rfl, by simp⟩ ⟨server, rfl⟩ rfl rfl

end TestScreen

/-- The logs that are shown are those that were told last, to a request of this screen. They belong
to the call that is shown exactly if no call has followed the one that they are of, and that is so
wherever no call was made while logs were on their way. -/
theorem logs_belong_unless_overtaken {log : List Exchange} {s : TestScreen}
    (h : Screen.History log (.test s)) :
    (∀ logs, s.logs = some logs → logs ≠ .loading → ∃ execution i result,
      AsksLogs log i execution ∧ LogsTold log i result ∧ logs = logsOf result) ∧
    (LogsBelong log s ↔ ¬ Overtaken log) ∧
    (Patient log → LogsBelong log s) := by
  have hcalls := CallLogs.of_history h s rfl
  exact ⟨fun logs => hcalls.told_of_shown, ⟨hcalls.current, hcalls.belong⟩,
    fun hpatient => hcalls.belong (hcalls.patient hpatient)⟩

open TestScreen in
/-- The logs of a call come before the next one is made, and belong to it. -/
theorem logs_of_own_call :
    let s := { first with response := some answer, logs := some (.loaded lines) }
    Screen.History (askedLog ++ [answeredLogs]) (.test s) ∧
      LogsBelong (askedLog ++ [answeredLogs]) s := by
  have htold := history_asked.receive 2 (.logs ⟨100, 0⟩ (.ok lines)) ⟨rfl, by simp [askedLog]⟩
    ⟨server, rfl⟩ rfl rfl
  refine ⟨htold, (logs_belong_unless_overtaken htold).2.1.mpr ?_⟩
  rintro ⟨i, result, ⟨page, hlast⟩, hnot⟩
  cases hlast
  refine hnot fun r hr => ?_
  obtain rfl := List.mem_singleton.mp hr
  rfl

open TestScreen in
/-- The next call is made while the logs of the first are on their way, and then these come. They
are shown though the call that is out has no answer. -/
theorem logs_of_call_before :
    let s := { first with sending := true, logs := some (.loaded lines) }
    Screen.History (askedLog ++ [.sent firstCall, answeredLogs]) (.test s) ∧
      s.response = none ∧ s.logs = some (.loaded lines) ∧
      ¬ LogsBelong (askedLog ++ [.sent firstCall, answeredLogs]) s := by
  have hcalled := history_asked.press (.ctrl 's') (.test { first with sending := true }) [firstCall]
    (by decide +kernel)
  have htold := hcalled.receive 2 (.logs ⟨100, 0⟩ (.ok lines)) ⟨rfl, by simp [askedLog]⟩
    ⟨server, rfl⟩ rfl rfl
  exact ⟨htold, rfl, rfl, fun hbelong => by cases hbelong.unanswered rfl⟩

end FunctionConsole
