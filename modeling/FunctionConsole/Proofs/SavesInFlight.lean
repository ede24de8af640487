import FunctionConsole.Proofs.LastAnswer

/-!
# Saves in flight

The settings are saved in three ways: the general fields, the variables, and, after a question, the
switch. The first two set a mark on the screen when they go out (`SettingsScreen.saving`), and while
it is set neither goes out again. The switch neither heeds the mark nor sets it. But its answer
takes the mark away, as any answer about a change does, also from a save that is still out.

`Visited` is what has happened on one screen, from its opening on: what has gone out, and what came
back, in that order. `SaveMark` is the invariant along it, and `saves_until_any_change_is_told` what
the mark then means: a save has gone out, and no change has been told since. As long as no switch is
answered during a save, that is the same as a save being out, and there is never more than one.
-/

namespace FunctionConsole

open Console (mutationRequest start Input)

-- ==================================================== saves and their answers

/-- Whether a request saves the general fields or the variables. -/
def Request.isSave : Request → Bool
  | .updateFunction _ patch => patch.disabled.isNone
  | .updateEnv _ _ => true
  | _ => false

namespace Response

/-- Whether a response is about a change of the function: a save, or the switch. -/
def tellsChange : Response → Bool
  | .functionUpdated _ _ | .envUpdated _ => true
  | _ => false

/-- Whether a response is about the switch. -/
def tellsSwitch : Response → Bool
  | .functionUpdated patch _ => patch.disabled.isSome
  | _ => false

end Response

/-- The answer to a save is about a change. -/
theorem Request.Answered.tellsChange {r : Request} {response : Response} (h : r.Answered response)
    (hr : r.isSave = true) : response.tellsChange = true := by
  obtain ⟨b, rfl⟩ := h
  cases r with
  | updateFunction | updateEnv => rfl
  | _ => cases hr

/-- A change that is not the switch was a save. -/
theorem Request.Answered.isSave {r : Request} {response : Response} (h : r.Answered response)
    (hchange : response.tellsChange = true) (hswitch : response.tellsSwitch = false) :
    r.isSave = true := by
  obtain ⟨b, rfl⟩ := h
  cases r with
  | updateFunction id patch =>
      change patch.disabled.isSome = false at hswitch
      show patch.disabled.isNone = true
      rw [← Option.not_isSome, hswitch]
      rfl
  | updateEnv id vars => rfl
  | _ => cases hchange

/-- What is done after a question is no save. -/
theorem isSave_mutationRequest (m : Mutation) : (mutationRequest m).isSave = false := by
  cases m <;> rfl

-- ==================================================== what goes out and comes back

/-- What passes between a screen and the server: a request, or the answer to one. The requests of a
screen are numbered in the order in which they go out. -/
inductive Exchange where
  | sent (r : Request)
  | answered (i : Nat) (response : Response)

namespace Exchange

/-- The request that goes out. -/
def request? : Exchange → Option Request
  | .sent r => some r
  | .answered _ _ => none

/-- Whether a save goes out, or a change is told. -/
def concernsSaving : Exchange → Bool
  | .sent r => r.isSave
  | .answered _ response => response.tellsChange

end Exchange

/-- The requests that have gone out. -/
def requestsIn (log : List Exchange) : List Request := log.filterMap Exchange.request?

/-- A request has gone out and has not been answered. -/
def Outstanding (log : List Exchange) (i : Nat) (r : Request) : Prop :=
  (requestsIn log)[i]? = some r ∧ ∀ response, Exchange.answered i response ∉ log

/-- The last save has not been answered. -/
def SaveOut (log : List Exchange) : Prop :=
  ∃ i r, Latest Request.isSave (requestsIn log) i ∧ Outstanding log i r

/-- No switch was answered while a save was out. -/
def Undisturbed (log : List Exchange) : Prop :=
  ∀ before i response after, log = before ++ .answered i response :: after →
    response.tellsSwitch = true → ∀ j r, Outstanding before j r → r.isSave = false

/-- What has happened on a screen since it opened, and the console as it is now. Requests go out
when something happens on the screen or around it, or with a response; the server answers each
request once, as it likes and when it likes. -/
inductive Visited : List Exchange → Console → Prop
  /-- The screen of an address opens. -/
  | entered (c : Console) (route : Route) :
    Visited ((Screen.ofRoute c.screenContext route).2.map .sent) (c.enter route).1
  /-- Anything happens but a response for the screen: keys, a question that is answered, time. -/
  | acted {log : List Exchange} {t : Turn} :
    Visited log t.before → t.input.message.IsExternal →
    (∀ response, t.input.message ≠ .api t.before.ticket response) → ¬ t.Leaves →
    Visited (log ++ (t.before.asked t.calls).map .sent) t.after
  /-- A request is answered that has not been answered yet. -/
  | answered {log : List Exchange} {t : Turn} {i : Nat} {request : Request}
    {response : Response} :
    Visited log t.before → Outstanding log i request → request.Answered response →
    t.input.message = .api t.before.ticket response → ¬ t.Leaves →
    Visited (log ++ [.answered i response] ++ (t.before.asked t.calls).map .sent) t.after

section

variable {log : List Exchange} {i : Nat} {r : Request}

theorem requestsIn_sent (log : List Exchange) (new : List Request) :
    requestsIn (log ++ new.map .sent) = requestsIn log ++ new := by
  rw [requestsIn, List.filterMap_append, List.filterMap_map]
  exact congrArg (requestsIn log ++ ·) (List.filterMap_some)

theorem requestsIn_answered (log : List Exchange) (i : Nat) (response : Response) :
    requestsIn (log ++ [.answered i response]) = requestsIn log := by
  rw [requestsIn, List.filterMap_append]
  exact List.append_nil _

theorem answered_mem_sent {new : List Request} {response : Response} :
    Exchange.answered i response ∈ log ++ new.map .sent ↔ .answered i response ∈ log := by
  simp

/-- A log is undisturbed as far as it goes. -/
theorem Undisturbed.of_append {log more : List Exchange} (h : Undisturbed (log ++ more)) :
    Undisturbed log := by
  rintro before i response after rfl
  exact h before i response (after ++ more) (by simp)

/-- A switch that has just been answered found no save out. -/
theorem Undisturbed.last {response : Response} (h : Undisturbed (log ++ [.answered i response]))
    (hswitch : response.tellsSwitch = true) {j : Nat} (hj : Outstanding log j r) :
    r.isSave = false :=
  h log i response [] rfl hswitch j r hj

/-- What is out after more requests was out before, or is one of them. -/
theorem Outstanding.of_sent {new : List Request} (h : Outstanding (log ++ new.map .sent) i r) :
    Outstanding log i r ∨ ∃ k, i = (requestsIn log).length + k ∧ new[k]? = some r := by
  obtain ⟨hr, hopen⟩ := h
  rw [requestsIn_sent] at hr
  obtain hi | hi := Nat.lt_or_ge i (requestsIn log).length
  · rw [List.getElem?_append_left hi] at hr
    exact .inl ⟨hr, fun response hmem => hopen response (answered_mem_sent.mpr hmem)⟩
  · rw [List.getElem?_append_right hi] at hr
    exact .inr ⟨i - (requestsIn log).length, (Nat.add_sub_cancel' hi).symm, hr⟩

/-- What is out is picked if it is the latest of what is picked. -/
theorem Outstanding.picked {p : Request → Bool} (h : Outstanding log i r)
    (hlatest : Latest p (requestsIn log) i) : p r = true := by
  obtain ⟨r', hr', hpicked⟩ := hlatest.picked
  obtain rfl := Option.some.inj (hr'.symm.trans h.1)
  exact hpicked

/-- What is out stays out while more requests go out. -/
theorem Outstanding.sent (h : Outstanding log i r) (new : List Request) :
    Outstanding (log ++ new.map .sent) i r := by
  obtain ⟨hr, hopen⟩ := h
  refine ⟨?_, fun response hmem => hopen response (answered_mem_sent.mp hmem)⟩
  rw [requestsIn_sent, List.getElem?_append_left (List.getElem?_eq_some_iff.mp hr).1, hr]

/-- An answer leaves out what it is not the answer to. -/
theorem outstanding_answered_iff {j : Nat} {response : Response} :
    Outstanding (log ++ [.answered j response]) i r ↔ Outstanding log i r ∧ i ≠ j := by
  rw [Outstanding, requestsIn_answered]
  constructor
  · rintro ⟨hr, hopen⟩
    exact ⟨⟨hr, fun response' hmem => hopen response' (List.mem_append_left _ hmem)⟩,
      fun heq => hopen response (by simp [heq])⟩
  · rintro ⟨⟨hr, hopen⟩, hne⟩
    exact ⟨hr, fun response' hmem => by simp [hne, hopen] at hmem⟩

end

-- ==================================================== the mark

/-- What a key, or something around the screen, does to the mark: the mark before, the mark after,
and what goes out. -/
inductive MarkStep (saving : Bool) : Bool → List Request → Prop
  /-- No save goes out, and the mark stays. -/
  | idle {requests : List Request} : (∀ r ∈ requests, r.isSave = false) →
    MarkStep saving saving requests
  /-- The mark was not set, and a save sets it. -/
  | saved {r : Request} : saving = false → r.isSave = true → MarkStep saving true [r]

/-- Without requests the mark stays. -/
@[simp] theorem MarkStep.quiet (saving : Bool) : MarkStep saving saving [] :=
  .idle fun _ hr => by cases hr

/-- Where a save goes out, it goes out alone, and sets the mark. -/
theorem MarkStep.of_save {saving saving' : Bool} {requests : List Request} {r : Request}
    (h : MarkStep saving saving' requests) (hr : r ∈ requests) (hsave : r.isSave = true) :
    saving = false ∧ saving' = true ∧ requests = [r] := by
  cases h with
  | idle hnone =>
      rw [hnone r hr] at hsave
      cases hsave
  | saved hsaving _ =>
      obtain rfl := List.mem_singleton.mp hr
      exact ⟨hsaving, rfl, rfl⟩

/-- What the mark says about what has gone out and come back: by what last concerned it, a save or
word of a change, it is set or not; while it is set, the last save is out; and as long as nothing
has disturbed it, a save that is out is the last one, and the mark is set. -/
structure SaveMark (log : List Exchange) (saving : Bool) : Prop where
  numbered : ∀ i response, .answered i response ∈ log → i < (requestsIn log).length
  last : saving = true ↔
    ∃ r, (log.filter Exchange.concernsSaving).getLast? = some (.sent r)
  out : saving = true → SaveOut log
  only : Undisturbed log → ∀ i r, Outstanding log i r → r.isSave = true →
    saving = true ∧ Latest Request.isSave (requestsIn log) i

namespace SaveMark

variable {log : List Exchange} {saving : Bool}

/-- Where nothing has gone out, nothing is being saved. -/
theorem nil : SaveMark [] false where
  numbered := by simp
  last := by simp
  out hsaving := by cases hsaving
  only _ i r hopen := by cases hopen.1

/-- Answers keep their numbers while more requests go out. -/
theorem numbered_sent (h : SaveMark log saving) (new : List Request) (i : Nat)
    (response : Response) (hmem : .answered i response ∈ log ++ new.map Exchange.sent) :
    i < (requestsIn (log ++ new.map .sent)).length := by
  rw [requestsIn_sent, List.length_append]
  exact Nat.lt_add_right _ (h.numbered i response (answered_mem_sent.mp hmem))

/-- Requests that are no saves do not concern the mark. -/
theorem requested (h : SaveMark log saving) {new : List Request}
    (hnew : ∀ r ∈ new, r.isSave = false) : SaveMark (log ++ new.map .sent) saving where
  numbered := h.numbered_sent new
  last := by
    have hnone : (new.map Exchange.sent).filter Exchange.concernsSaving = [] := by
      rw [List.filter_eq_nil_iff]
      intro e he
      obtain ⟨r, hr, rfl⟩ := List.mem_map.mp he
      show ¬ r.isSave = true
      rw [hnew r hr]
      exact Bool.false_ne_true
    rw [List.filter_append, hnone, List.append_nil]
    exact h.last
  out hsaving := by
    obtain ⟨i, r, hlatest, hopen⟩ := h.out hsaving
    exact ⟨i, r, requestsIn_sent log new ▸ hlatest.append new hnew, hopen.sent new⟩
  only hundisturbed i r hopen hr := by
    obtain hbefore | ⟨k, -, hk⟩ := hopen.of_sent
    · obtain ⟨hsaving, hlatest⟩ := h.only hundisturbed.of_append i r hbefore hr
      exact ⟨hsaving, requestsIn_sent log new ▸ hlatest.append new hnew⟩
    · rw [hnew r (List.mem_of_getElem? hk)] at hr
      cases hr

/-- A save sets the mark. -/
theorem saved (h : SaveMark log false) {r : Request} (hr : r.isSave = true) :
    SaveMark (log ++ [r].map .sent) true where
  numbered := h.numbered_sent [r]
  last := by
    refine ⟨fun _ => ⟨r, ?_⟩, fun _ => rfl⟩
    have hconcerns : (Exchange.sent r).concernsSaving = true := hr
    rw [List.map_singleton, List.filter_append, List.filter_cons_of_pos hconcerns,
      List.filter_nil, List.getLast?_concat]
  out _ := by
    refine ⟨(requestsIn log).length, r, ?_, ?_, fun response hmem => ?_⟩
    · rw [requestsIn_sent]
      exact latest_concat _ hr
    · rw [requestsIn_sent, List.getElem?_concat_length]
    · exact Nat.lt_irrefl _ (h.numbered _ response (answered_mem_sent.mp hmem))
  only hundisturbed i s hopen hs := by
    obtain hbefore | ⟨k, rfl, hk⟩ := hopen.of_sent
    · -- nothing was out before
      cases (h.only hundisturbed.of_append i s hbefore hs).1
    · have hlt := (List.getElem?_eq_some_iff.mp hk).1
      obtain rfl : k = 0 := Nat.lt_one_iff.mp hlt
      rw [Nat.add_zero, requestsIn_sent]
      exact ⟨rfl, latest_concat _ hr⟩

/-- What a key, or something around the screen, does to the mark. -/
theorem step (h : SaveMark log saving) {saving' : Bool} {requests : List Request}
    (hstep : MarkStep saving saving' requests) :
    SaveMark (log ++ requests.map .sent) saving' := by
  cases hstep with
  | idle hnone => exact h.requested hnone
  | saved hsaving hr => exact saved (hsaving ▸ h) hr

/-- An answer takes the mark away if it is about any change. -/
theorem told (h : SaveMark log saving) {i : Nat} {request : Request} {response : Response}
    (hopen : Outstanding log i request) (hanswered : request.Answered response) :
    SaveMark (log ++ [.answered i response]) (saving && !response.tellsChange) where
  numbered j response' hmem := by
    rw [requestsIn_answered]
    rcases List.mem_append.mp hmem with hmem | hmem
    · exact h.numbered j response' hmem
    · cases List.mem_singleton.mp hmem
      exact (List.getElem?_eq_some_iff.mp hopen.1).1
  last := by
    rw [List.filter_append]
    cases hchange : response.tellsChange with
    | false =>
        rw [List.filter_cons_of_neg (by simpa [Exchange.concernsSaving] using hchange),
          List.filter_nil, List.append_nil, Bool.not_false, Bool.and_true]
        exact h.last
    | true =>
        have hconcerns : (Exchange.answered i response).concernsSaving = true := hchange
        rw [List.filter_cons_of_pos hconcerns, List.filter_nil, List.getLast?_concat]
        simp
  out hsaving := by
    rw [Bool.and_eq_true, Bool.not_eq_true'] at hsaving
    obtain ⟨j, r, hlatest, hj⟩ := h.out hsaving.1
    refine ⟨j, r, requestsIn_answered log i response ▸ hlatest,
      outstanding_answered_iff.mpr ⟨hj, ?_⟩⟩
    -- the answer to a save would be about a change
    rintro rfl
    rw [hanswered.tellsChange (hopen.picked hlatest)] at hsaving
    cases hsaving.2
  only hundisturbed j r hj hr := by
    obtain ⟨hbefore, hne⟩ := outstanding_answered_iff.mp hj
    have honly := h.only hundisturbed.of_append
    obtain ⟨hsaving, hlatest⟩ := honly j r hbefore hr
    refine ⟨?_, requestsIn_answered log i response ▸ hlatest⟩
    cases hchange : response.tellsChange with
    | false => rw [hsaving]; rfl
    | true =>
        cases hswitch : response.tellsSwitch with
        | true =>
            rw [hundisturbed.last hswitch hbefore] at hr
            cases hr
        | false =>
            -- then it was a save that is answered, and there was no other
            have hsave := hanswered.isSave hchange hswitch
            exact absurd (hlatest.unique (honly i request hopen hsave).2) hne

end SaveMark

-- ==================================================== the settings

namespace Effects

-- What effects ask for.

@[simp] theorem none_requests : none.requests = [] := rfl

@[simp] theorem failure_requests (message : String) : (failure message).requests = [] := rfl

@[simp] theorem success_requests (message : String) : (success message).requests = [] := rfl

@[simp] theorem andRequest_requests (e : Effects) (r : Request) :
    (e.andRequest r).requests = e.requests ++ [r] := rfl

@[simp] theorem andGoTo_requests (e : Effects) (route : Route) :
    (e.andGoTo route).requests = e.requests := rfl

end Effects

namespace SettingsScreen

theorem saveGeneral_mark (s : SettingsScreen) :
    MarkStep s.saving s.saveGeneral.1.saving s.saveGeneral.2.requests := by
  unfold saveGeneral
  split
  · exact .quiet _
  · next hsaving =>
      dsimp only
      split
      · exact .quiet _
      · split
        · exact .quiet _
        · exact .saved (by simpa using hsaving) rfl

theorem saveEnv_mark (s : SettingsScreen) :
    MarkStep s.saving s.saveEnv.1.saving s.saveEnv.2.requests := by
  unfold saveEnv
  split
  · exact .quiet _
  · next hsaving =>
      split
      · exact .saved (by simpa using hsaving) rfl
      · exact .quiet _

@[simp] theorem saveStatus_requests (s : SettingsScreen) : s.saveStatus.requests = [] := by
  unfold saveStatus
  split <;> rfl

@[simp] theorem requestDelete_requests (s : SettingsScreen) : s.requestDelete.requests = [] := by
  unfold requestDelete
  split <;> rfl

theorem generalKey_mark (s : SettingsScreen) (key : Key) :
    ∀ p ∈ s.generalKey key, MarkStep s.saving p.1.saving p.2.requests := by
  unfold generalKey
  split
  · simp
  · simp
  · simpa using s.saveGeneral_mark
  · dsimp only
    split
    all_goals
      split
      · simp [apply_ite SettingsScreen.saving]
      · simp

theorem envKey_mark (s : SettingsScreen) (key : Key) :
    ∀ p ∈ s.envKey key, MarkStep s.saving p.1.saving p.2.requests := by
  unfold envKey
  split
  case h_6 => simpa using s.saveEnv_mark
  case h_7 =>
      dsimp only
      split <;> simp
  all_goals simp

/-- A key sends no save, or one where the mark was not set, and sets it. -/
theorem handleKey_mark (s : SettingsScreen) (key : Key) :
    ∀ p ∈ s.handleKey key, MarkStep s.saving p.1.saving p.2.requests := by
  have hsection : ∀ p ∈ s.sectionKey key, MarkStep s.saving p.1.saving p.2.requests := by
    unfold sectionKey
    split
    · exact s.generalKey_mark key
    · exact s.envKey_mark key
    · simp
    · split <;> simp
    · split <;> simp
  unfold handleKey
  split
  · simp
  · simp
  · split
    · exact hsection
    · simp

theorem generalFailed_mark (s : SettingsScreen) (e : ApiError) :
    (s.generalFailed e).1.saving = s.saving ∧ (s.generalFailed e).2.requests = [] := by
  unfold generalFailed
  dsimp only
  split
  · split <;> exact ⟨rfl, rfl⟩
  · exact ⟨rfl, rfl⟩

/-- A response takes the mark away if it is about a change, and sends no save. -/
theorem handleResponse_mark (s : SettingsScreen) (response : Response) :
    (s.handleResponse response).1.saving = (s.saving && !response.tellsChange) ∧
      ∀ r ∈ (s.handleResponse response).2.requests, r.isSave = false := by
  cases response with
  | function result => cases result <;> simp [handleResponse, seed, Response.tellsChange]
  | functionUpdated patch result =>
      unfold handleResponse functionUpdated
      dsimp only
      split
      · simp [Response.tellsChange, Request.isSave]
      · simp [Response.tellsChange]
      · simp [Response.tellsChange, Request.isSave]
      · simp [Response.tellsChange, generalFailed_mark]
  | envUpdated result =>
      cases result <;> simp [handleResponse, Response.tellsChange, Request.isSave]
  | functionDeleted result => cases result <;> simp [handleResponse, Response.tellsChange]
  | _ => simp [handleResponse, Response.tellsChange]

end SettingsScreen

-- ==================================================== the mark along a run

namespace Screen

/-- After a key the settings are shown only if they were before. -/
theorem settings_of_handleKey {screen : Screen} {s' : SettingsScreen} {key : Key} {e : Effects}
    (h : screen.handleKey key = some (.settings s', e)) :
    ∃ s, screen = .settings s ∧ s.handleKey key = some (s', e) := by
  cases screen with
  | settings s =>
      obtain ⟨⟨_, _⟩, hkey, heq⟩ := Option.map_eq_some_iff.mp h
      cases heq
      exact ⟨s, rfl, hkey⟩
  | _ =>
      obtain ⟨_, -, heq⟩ := Option.map_eq_some_iff.mp h
      cases heq

/-- After a response the settings are shown only if they were before. -/
theorem settings_of_handleResponse {screen : Screen} {s' : SettingsScreen} {response : Response}
    (h : (screen.handleResponse response).1 = .settings s') :
    ∃ s, screen = .settings s ∧ (s.handleResponse response).1 = s' := by
  cases screen with
  | settings s => exact ⟨s, rfl, Screen.settings.inj h⟩
  | _ => cases h

end Screen

/-- Nothing has been saved on a fresh screen. -/
theorem saveMark_ofRoute (ctx : ScreenContext) {route : Route} {s : SettingsScreen}
    (h : (Screen.ofRoute ctx route).1 = .settings s) :
    SaveMark ((Screen.ofRoute ctx route).2.map .sent) s.saving := by
  cases route with
  | settings id =>
      cases h
      have hnone : ∀ r ∈ [Request.getFunction id], r.isSave = false := by simp [Request.isSave]
      exact SaveMark.nil.requested hnone
  | _ => cases h

/-- All along, the mark says what it says. -/
theorem Visited.mark {log : List Exchange} {c : Console} (h : Visited log c) :
    ∀ {s : SettingsScreen}, c.screen = .settings s → SaveMark log s.saving := by
  induction h with
  | entered c route => exact saveMark_ofRoute c.screenContext
  | @acted log t _ hexternal hother hstays ih =>
      intro s' hs'
      rcases (Turn.outcome hexternal).acted hother (Decidable.not_not.mp hstays) with
        ⟨key, e, hkey, hasked⟩ | ⟨hscreen, hchanges⟩
      · rw [hs'] at hkey
        obtain ⟨s, hs, hkey⟩ := Screen.settings_of_handleKey hkey
        rw [hasked]
        exact (ih hs).step (s.handleKey_mark key _ hkey)
      · refine (ih (hscreen.symm.trans hs')).requested fun r hr => ?_
        obtain ⟨m, rfl⟩ := hchanges r hr
        exact isSave_mutationRequest m
  | @answered log t i request response _ hopen hanswered hmessage hstays ih =>
      intro s' hs'
      have hstays := Decidable.not_not.mp hstays
      rw [Turn.after, hmessage] at hstays hs'
      obtain ⟨hscreen, hasked⟩ := Console.process_of_staying hstays
      obtain ⟨s, hs, rfl⟩ := Screen.settings_of_handleResponse (hscreen.symm.trans hs')
      obtain ⟨hsaving, hrequests⟩ := s.handleResponse_mark response
      rw [Turn.calls, hmessage, hasked, hs, hsaving]
      exact ((ih hs).told hopen hanswered).requested hrequests

/-- The mark of a save says that one has gone out and no change has been told since. So the last
save is out while the mark is set, and no other goes out then. But the mark goes with the word of
any change, and a switch goes out beside a save. Only as long as no switch is answered during a
save, the mark is set exactly while the last save is out, no other is out beside it, and none goes
out. -/
theorem saves_until_any_change_is_told {log : List Exchange} {c : Console} {s : SettingsScreen}
    (h : Visited log c) (hs : c.screen = .settings s) :
    (s.saving = true ↔ ∃ r, (log.filter Exchange.concernsSaving).getLast? = some (.sent r)) ∧
    (s.saving = true → SaveOut log) ∧
    (∀ key s' e, s.handleKey key = some (s', e) → ∀ r ∈ e.requests, r.isSave = true →
      s.saving = false ∧ s'.saving = true ∧ e.requests = [r]) ∧
    (Undisturbed log → (s.saving = true ↔ SaveOut log) ∧
      (∀ i j r r', Outstanding log i r → r.isSave = true → Outstanding log j r' →
        r'.isSave = true → i = j) ∧
      ∀ key s' e, s.handleKey key = some (s', e) → (∃ r ∈ e.requests, r.isSave = true) →
        ∀ i r, Outstanding log i r → r.isSave = false) := by
  have hmark := h.mark hs
  have hkeys : ∀ key s' e, s.handleKey key = some (s', e) → ∀ r ∈ e.requests, r.isSave = true →
      s.saving = false ∧ s'.saving = true ∧ e.requests = [r] := by
    intro key s' e hkey r hr hsave
    exact (s.handleKey_mark key _ hkey).of_save hr hsave
  refine ⟨hmark.last, hmark.out, hkeys, fun hundisturbed => ⟨⟨hmark.out, ?_⟩, ?_, ?_⟩⟩
  · rintro ⟨i, r, hlatest, hopen⟩
    exact (hmark.only hundisturbed i r hopen (hopen.picked hlatest)).1
  · intro i j r r' hi hr hj hr'
    exact (hmark.only hundisturbed i r hi hr).2.unique (hmark.only hundisturbed j r' hj hr').2
  · rintro key s' e hkey ⟨r, hr, hsave⟩ i r' hopen
    have hfree := (hkeys key s' e hkey r hr hsave).1
    rw [← Bool.not_eq_true]
    intro hsave'
    rw [(hmark.only hundisturbed i r' hopen hsave').1] at hfree
    cases hfree

-- ==================================================== a switch that is answered during a save

/-- Keys, one after the other. -/
def keysOf (keys : List Key) : List Input := keys.map fun key => ⟨0, .key key⟩

section

variable {log : List Exchange} {c : Console}

/-- Keys on a screen that stays. -/
theorem Visited.keys (h : Visited log c) (keys : List Key) (new : List Request)
    (hstays : ∀ t ∈ c.turns (keysOf keys), t.after.generation = t.before.generation)
    (hnew : (c.turns (keysOf keys)).flatMap (fun t => t.before.asked t.calls) = new) :
    Visited (log ++ new.map .sent) (c.through (keysOf keys)) := by
  subst hnew
  induction keys generalizing log c with
  | nil => exact (List.append_nil log).symm ▸ h
  | cons key keys ih =>
      obtain ⟨hfirst, hrest⟩ := List.forall_mem_cons.mp hstays
      have hstep := h.acted (t := ⟨c, 0, .key key⟩) trivial (fun _ heq => by cases heq)
        fun hleaves => hleaves hfirst
      have hall := ih hstep hrest
      rw [List.append_assoc, ← List.map_append] at hall
      exact hall

/-- An answer on a screen that stays. -/
theorem Visited.answer (h : Visited log c) (i : Nat) {request : Request} (response : Response)
    (new : List Request) (hopen : Outstanding log i request)
    (hanswered : request.Answered response)
    (hstays : (Turn.after ⟨c, 0, .api c.ticket response⟩).generation = c.generation)
    (hnew : c.asked (Turn.calls ⟨c, 0, .api c.ticket response⟩) = new) :
    Visited (log ++ [.answered i response] ++ new.map .sent)
      (Turn.after ⟨c, 0, .api c.ticket response⟩) := by
  subst hnew
  exact h.answered (t := ⟨c, 0, .api c.ticket response⟩) hopen hanswered rfl
    fun hleaves => hleaves hstays

end

namespace SwitchedDuringSave

/-- The function whose settings are shown. -/
def function : Function := { (default : Function) with id := "f", name := "hello" }

/-- A server that grants what the settings ask for. -/
def server : Backend Id :=
  { refusingServer (.network "refused") with
    getFunction := fun _ => .ok function
    updateFunction := fun _ _ => .ok () }

/-- The word that the switch has been changed. -/
def word : Response := .functionUpdated { disabled := some true } (.ok ())

/-- The settings have been opened. -/
def opened : Console :=
  (start {}).through [⟨0, .startup (.settings "f") (some "key")⟩,
    ⟨0, .api ⟨.view, 1⟩ (.loggedIn (.ok ()))⟩]

/-- The function has come. -/
def loaded : Console := Turn.after ⟨opened, 0, .api opened.ticket (.function (.ok function))⟩

/-- The keys that change the switch, confirm that, and save a new name. -/
def keys : List Key :=
  [.backTab, .backTab, .char ' ', .ctrl 's', .char 'y', .tab, .tab, .char '!', .ctrl 's']

/-- The switch and the name are out, and neither is answered. -/
def busy : Console := loaded.through (keysOf keys)

/-- The change of the switch is answered, and the name is changed once more. -/
def retyped : Console :=
  (Turn.after ⟨busy, 0, .api busy.ticket word⟩).through (keysOf [.char '?'])

/-- The screen with a name that has been typed. -/
def screen (name : String) (saving : Bool) : SettingsScreen :=
  { id := "f", function := .loaded function, name := .ofString name, enabled := false, saving,
    baseUrl := "http://localhost:3000" }

/-- The save of the name. -/
def save : Request := .updateFunction "f" { name := some "hello!" }

/-- What has passed until both are out. -/
def log : List Exchange :=
  [.sent (.getFunction "f"), .answered 0 (.function (.ok function)),
    .sent (.updateFunction "f" { disabled := some true }), .sent save]

/-- What has passed in the end. -/
def longer : List Exchange := log ++ [.answered 1 word, .sent (.getFunction "f")]

theorem visited_busy : Visited log busy := by
  have hopened : Visited [.sent (.getFunction "f")] opened :=
    .entered (Turn.after ⟨start {}, 0, .startup (.settings "f") (some "key")⟩) (.settings "f")
  have hloaded : Visited _ loaded :=
    hopened.answer 0 _ [] ⟨rfl, by simp⟩ ⟨server, rfl⟩ (by decide +kernel) (by decide +kernel)
  exact hloaded.keys keys [.updateFunction "f" { disabled := some true }, save]
    (by decide +kernel) (by decide +kernel)

theorem visited_retyped : Visited longer retyped := by
  have hswitched := visited_busy.answer 1 word [.getFunction "f"]
    ⟨rfl, by simp [log]⟩ ⟨server, rfl⟩ (by decide +kernel) (by decide +kernel)
  exact hswitched.keys [.char '?'] [] (by decide +kernel) (by decide +kernel)

/-- Until both are out, no switch has been answered. -/
theorem undisturbed_log : Undisturbed log := by
  intro before i response after heq hswitch
  have hmem : Exchange.answered i response ∈ log := by simp [heq]
  obtain ⟨-, rfl⟩ : i = 0 ∧ response = .function (.ok function) := by simpa [log] using hmem
  cases hswitch

theorem busy_screen : busy.screen = .settings (screen "hello!" true) := by decide +kernel

theorem retyped_screen : retyped.screen = .settings (screen "hello!?" false) := by decide +kernel

end SwitchedDuringSave

open SwitchedDuringSave

/-- While a switch and a save are both out, the mark stands for the save, and no other goes out. -/
theorem one_save_beside_switch :
    Visited log busy ∧ busy.screen = .settings (screen "hello!" true) ∧ Undisturbed log ∧
      SaveOut log ∧ ∀ key s' e, (screen "hello!" true).handleKey key = some (s', e) →
        ∀ r ∈ e.requests, r.isSave = false := by
  obtain ⟨-, -, -, hundisturbed⟩ := saves_until_any_change_is_told visited_busy busy_screen
  obtain ⟨hiff, -, hnone⟩ := hundisturbed undisturbed_log
  refine ⟨visited_busy, busy_screen, undisturbed_log, hiff.mp rfl, fun key s' e hkey r hr => ?_⟩
  rw [← Bool.not_eq_true]
  intro hsave
  cases hnone key s' e hkey ⟨r, hr, hsave⟩ 2 save ⟨rfl, by simp [log]⟩

/-- Then the switch is answered. The first save is still out, but the mark is gone, and a second
save goes out beside it. -/
theorem second_save_beside_first :
    Visited longer retyped ∧ retyped.screen = .settings (screen "hello!?" false) ∧
      ¬ ((screen "hello!?" false).saving = true ↔ SaveOut longer) ∧ Outstanding longer 2 save ∧
      ((screen "hello!?" false).handleKey (.ctrl 's')).map (fun p => p.2.requests) =
        some [.updateFunction "f" { name := some "hello!?" }] := by
  have hopen : Outstanding longer 2 save := ⟨rfl, by simp [longer, log]⟩
  have hlatest : Latest Request.isSave (requestsIn longer) 2 :=
    (latest_concat ((requestsIn longer).take 2) rfl).append [.getFunction "f"]
      (by simp [Request.isSave])
  refine ⟨visited_retyped, retyped_screen, fun hiff => ?_, hopen, by decide +kernel⟩
  cases hiff.mpr ⟨2, save, hlatest, hopen⟩

end FunctionConsole
