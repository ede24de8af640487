import FunctionConsole.Proofs.Run
import FunctionConsole.Screen
import Mathlib.Algebra.Order.Group.Multiset

/-!
# First loads

A screen that opens asks for what it shows, and an answer may make it ask for more. The answers come
in any order, and on some screens they touch the same fields: without its function a difference is
not to be had either, whichever of the two answers is the first. This file shows that the order does
not matter. Once everything has been answered, the screen and the toasts are the same.

The argument is the one for rewriting systems that come to an end. `Settles` says of a load that
every request is made once, that two answers that may both come next can be exchanged, and that the
same holds after each of them; `Settles.last` is the common end of all orders. What has to be shown
for each screen is `Screen.Commute`, the exchange of two answers.
-/

namespace FunctionConsole

-- ==================================================== loads

/-- A screen in its first load: the requests that wait for an answer, and the toasts that have been
shown, in no order. -/
structure Load where
  screen : Screen
  waiting : Multiset Request
  toasts : Multiset (String × ToastKind)

namespace Load

/-- A screen that has just been opened. -/
def opening (ctx : ScreenContext) (route : Route) : Load where
  screen := (Screen.ofRoute ctx route).1
  waiting := (Screen.ofRoute ctx route).2
  toasts := 0

section

variable {answer : Request → Response}

/-- The load after the answer to one of its requests. What the screen asks for in return waits. -/
def deliver (answer : Request → Response) (l : Load) (r : Request) : Load where
  screen := (l.screen.handleResponse (answer r)).1
  waiting := l.waiting.erase r + (l.screen.handleResponse (answer r)).2.requests
  toasts := l.toasts + (l.screen.handleResponse (answer r)).2.toasts

/-- The answers come in this order, each of them to a request that waits for it. -/
inductive Delivers (answer : Request → Response) : Load → List Request → Load → Prop
  | nil (l : Load) : Delivers answer l [] l
  | cons {l l' : Load} {r : Request} {order : List Request} (hr : r ∈ l.waiting)
      (h : Delivers answer (l.deliver answer r) order l') : Delivers answer l (r :: order) l'

/-- A load whose requests are other ones than those answered before, and can be answered in any
order; and so on, after each answer, until none is left. -/
inductive Settles (answer : Request → Response) : List Request → Load → Prop
  | intro {before : List Request} {l : Load}
      (fresh : ∀ r ∈ l.waiting, r ∉ before)
      (comm : ∀ a ∈ l.waiting, ∀ b ∈ l.waiting, a ≠ b →
        (l.deliver answer a).deliver answer b = (l.deliver answer b).deliver answer a)
      (next : ∀ r ∈ l.waiting, Settles answer (r :: before) (l.deliver answer r)) :
      Settles answer before l

-- ==================================================== the common end

theorem mem_waiting_deliver {l : Load} {a b : Request} (hb : b ∈ l.waiting) (hne : b ≠ a) :
    b ∈ (l.deliver answer a).waiting :=
  Multiset.mem_add.mpr (.inl ((Multiset.mem_erase_of_ne hne).mpr hb))

theorem Delivers.eq_of_waiting_eq_zero {l l' : Load} {order : List Request}
    (h : Delivers answer l order l') (hwaiting : l.waiting = 0) : l' = l := by
  cases h with
  | nil => rfl
  | cons hr h =>
      rw [hwaiting] at hr
      exact absurd hr (Multiset.notMem_zero _)

/-- No request is answered twice. -/
theorem Settles.nodup {before : List Request} {l l' : Load} {order : List Request}
    (hl : Settles answer before l) (h : Delivers answer l order l') :
    order.Nodup ∧ ∀ r ∈ order, r ∉ before := by
  induction h generalizing before with
  | nil => exact ⟨List.nodup_nil, fun r hr => by cases hr⟩
  | cons hr h ih =>
      obtain ⟨fresh, -, next⟩ := hl
      obtain ⟨hnodup, hbefore⟩ := ih (next _ hr)
      refine ⟨List.nodup_cons.mpr ⟨fun hmem => ?_, hnodup⟩, fun a ha => ?_⟩
      · exact hbefore _ hmem List.mem_cons_self
      · rcases List.mem_cons.mp ha with rfl | ha
        · exact fresh _ hr
        · exact fun hmem => hbefore a ha (List.mem_cons_of_mem _ hmem)

theorem Settles.finishes {before : List Request} {l : Load} (hl : Settles answer before l) :
    ∃ order last, Delivers answer l order last ∧ last.waiting = 0 := by
  induction hl with
  | @intro before l fresh comm next ih =>
      by_cases hwaiting : l.waiting = 0
      · exact ⟨[], l, .nil l, hwaiting⟩
      · obtain ⟨r, hr⟩ := Multiset.exists_mem_of_ne_zero hwaiting
        obtain ⟨order, last, hdelivers, hlast⟩ := ih r hr
        exact ⟨r :: order, last, .cons hr hdelivers, hlast⟩

/-- Whichever answer comes first, an end that can be reached can be reached after it as well. -/
theorem Settles.reached_after {before : List Request} {l last : Load} {order : List Request}
    (hl : Settles answer before l) (h : Delivers answer l order last) (hlast : last.waiting = 0)
    {r : Request} (hr : r ∈ l.waiting) :
    ∃ rest, Delivers answer (l.deliver answer r) rest last := by
  induction hl generalizing order r with
  | @intro before l fresh comm next ih =>
      cases h with
      | nil =>
          rw [hlast] at hr
          exact absurd hr (Multiset.notMem_zero _)
      | @cons _ _ a order ha h =>
          by_cases hra : r = a
          · exact ⟨order, hra ▸ h⟩
          · -- the first answer of the order is put behind `r`, where it has the same effect
            obtain ⟨rest, hrest⟩ := ih a ha h (mem_waiting_deliver hr hra)
            rw [comm a ha r hr (Ne.symm hra)] at hrest
            exact ⟨a :: rest, .cons (mem_waiting_deliver ha (Ne.symm hra)) hrest⟩

/-- However the answers have come so far, an end that can be reached can be reached from there. -/
theorem Settles.reached {before : List Request} {l l' last : Load} {order done : List Request}
    (hl : Settles answer before l) (hdone : Delivers answer l done l')
    (h : Delivers answer l order last) (hlast : last.waiting = 0) :
    ∃ rest, Delivers answer l' rest last := by
  induction hdone generalizing before order with
  | nil => exact ⟨order, h⟩
  | cons hr hdone ih =>
      obtain ⟨rest, hrest⟩ := hl.reached_after h hlast hr
      obtain ⟨-, -, next⟩ := hl
      exact ih (next _ hr) hrest

/-- All orders come to the same end: whatever has been answered so far, the rest leads there. -/
theorem Settles.last {l : Load} (hl : Settles answer [] l) :
    ∃ last : Load, last.waiting = 0 ∧
      ∀ order l', Delivers answer l order l' →
        order.Nodup ∧ (∃ rest, Delivers answer l' rest last) ∧
          (l'.waiting = 0 → l' = last) := by
  obtain ⟨order, last, hdelivers, hlast⟩ := hl.finishes
  refine ⟨last, hlast, fun done l' hdone => ?_⟩
  obtain ⟨rest, hrest⟩ := hl.reached hdone hdelivers hlast
  refine ⟨(hl.nodup hdone).1, ⟨rest, hrest⟩, fun hwaiting => ?_⟩
  exact (hrest.eq_of_waiting_eq_zero hwaiting).symm

end

end Load

-- ==================================================== exchanging two answers

/-- Two responses can be exchanged: they leave the same screen in either order, and neither changes
what the other one asks of the console. -/
structure Screen.Commute (s : Screen) (a b : Response) : Prop where
  screen : ((s.handleResponse a).1.handleResponse b).1 = ((s.handleResponse b).1.handleResponse a).1
  left : ((s.handleResponse b).1.handleResponse a).2 = (s.handleResponse a).2
  right : ((s.handleResponse a).1.handleResponse b).2 = (s.handleResponse b).2

namespace Screen

section

variable (f : ApiError.Result Function) (page : PageState)

/-- The function fills its own slot, and the list is compared with the page alone. -/
theorem commute_versions (s : VersionsScreen) (list : ApiError.Result VersionList) :
    (versions s).Commute (.function f) (.versions page list) := by
  by_cases hpage : page = s.page
  · subst hpage
    cases f <;> cases list <;> constructor <;> simp [handleResponse, VersionsScreen.handleResponse]
  · cases f <;> constructor <;> simp [handleResponse, VersionsScreen.handleResponse, hpage]

theorem commute_executions (s : ExecutionsScreen) (list : ApiError.Result ExecutionList) :
    (executions s).Commute (.function f) (.executions page list) := by
  by_cases hpage : page = s.page
  · subst hpage
    cases f <;> cases list <;> constructor <;>
      simp [handleResponse, ExecutionsScreen.handleResponse]
  · cases f <;> constructor <;> simp [handleResponse, ExecutionsScreen.handleResponse, hpage]

/-- A function that is not to be had takes the difference with it, whether that has come before or
is still to come; the screen has only not to have been told so already. -/
theorem commute_diff (s : DiffScreen) (d : ApiError.Result VersionDiff)
    (hs : s.function.isNotFound = false) : (diff s).Commute (.function f) (.diff d) := by
  have hgone : (Loadable.notFound : Loadable Function).isNotFound = true := rfl
  have hthere (f : Function) : (Loadable.loaded f).isNotFound = false := rfl
  cases f <;> cases d <;> constructor <;>
    simp [handleResponse, DiffScreen.handleResponse, hs, hgone, hthere]

/-- The execution asks for its function, which is a request of its own. -/
theorem commute_execution (s : ExecutionScreen) (e : ApiError.Result Execution)
    (list : ApiError.Result LogList) : (execution s).Commute (.execution e) (.logs page list) := by
  by_cases hpage : page = s.page
  · subst hpage
    cases e <;> cases list <;> constructor <;> simp [handleResponse, ExecutionScreen.handleResponse]
  · cases e <;> constructor <;> simp [handleResponse, ExecutionScreen.handleResponse, hpage]

theorem commute_execution_function (s : ExecutionScreen) (list : ApiError.Result LogList) :
    (execution s).Commute (.function f) (.logs page list) := by
  by_cases hpage : page = s.page
  · subst hpage
    cases f <;> cases list <;> constructor <;> simp [handleResponse, ExecutionScreen.handleResponse]
  · cases f <;> constructor <;> simp [handleResponse, ExecutionScreen.handleResponse, hpage]

end

end Screen

-- ==================================================== what answers ask for

/-- Whether a response brings something to look at that leads to nothing else. -/
def Response.isReading : Response → Bool
  | .functions _ _ | .function _ | .versions _ _ | .diff _ | .executions _ _ | .logs _ _ => true
  | _ => false

/-- What is only looked at makes no screen ask for more. -/
theorem Screen.requests_of_isReading (s : Screen) {r : Response} (h : r.isReading = true) :
    (s.handleResponse r).2.requests = [] := by
  cases s <;> cases r <;> try first | (cases h; done) | rfl
  case functions.functions s page result | versions.versions s page result |
      executions.executions s page result | execution.logs s page result =>
    -- another page than the screen's is dropped
    by_cases hpage : page = s.page <;> cases result <;>
      simp [handleResponse, FunctionsScreen.handleResponse, VersionsScreen.handleResponse,
        ExecutionsScreen.handleResponse, ExecutionScreen.handleResponse, Effects.none,
        Effects.failure, Effects.toast, hpage]
  case code.function result | versions.function result | executions.function result |
      settings.function result | test.function result | test.logs result |
      diff.function result | diff.diff result | execution.function result =>
    cases result <;> rfl

-- ==================================================== loads that settle

namespace Load

variable {answer : Request → Response} {before : List Request} {l : Load}

/-- Answers that can be exchanged on the screen can be exchanged in the load. -/
theorem deliver_comm {a b : Request} (ha : a ∈ l.waiting) (hb : b ∈ l.waiting) (hne : a ≠ b)
    (h : l.screen.Commute (answer a) (answer b)) :
    (l.deliver answer a).deliver answer b = (l.deliver answer b).deliver answer a := by
  have hwaiting (ra rb : Multiset Request) :
      (l.waiting.erase a + ra).erase b + rb = (l.waiting.erase b + rb).erase a + ra := by
    rw [Multiset.erase_add_left_pos _ ((Multiset.mem_erase_of_ne (Ne.symm hne)).mpr hb),
      Multiset.erase_add_left_pos _ ((Multiset.mem_erase_of_ne hne).mpr ha),
      Multiset.erase_comm, add_right_comm]
  simp only [deliver, h.screen, h.left, h.right, hwaiting, add_right_comm]

/-- After the first of two answers the second one waits, and what the first has led to. -/
theorem waiting_deliver_left {a b : Request} {more : List Request} (h : l.waiting = {a, b})
    (hmore : (l.screen.handleResponse (answer a)).2.requests = more) :
    (l.deliver answer a).waiting = {b} + (more : Multiset Request) := by
  rw [deliver, h, hmore, Multiset.insert_eq_cons, Multiset.erase_cons_head]

theorem waiting_deliver_right {a b : Request} {more : List Request} (h : l.waiting = {a, b})
    (hne : a ≠ b) (hmore : (l.screen.handleResponse (answer b)).2.requests = more) :
    (l.deliver answer b).waiting = {a} + (more : Multiset Request) := by
  rw [deliver, h, hmore, Multiset.insert_eq_cons, Multiset.erase_cons_tail _ hne,
    Multiset.erase_singleton]
  rfl

theorem waiting_deliver_only {r : Request} {more : List Request} (h : l.waiting = {r})
    (hmore : (l.screen.handleResponse (answer r)).2.requests = more) :
    (l.deliver answer r).waiting = more := by
  rw [deliver, h, hmore, Multiset.erase_singleton, zero_add]

theorem settles_of_none (h : l.waiting = 0) : Settles answer before l := by
  refine .intro ?_ ?_ ?_ <;> simp [h]

/-- A single request settles if what is left after its answer does. -/
theorem settles_of_single {r : Request} (h : l.waiting = {r}) (hr : r ∉ before)
    (hafter : Settles answer (r :: before) (l.deliver answer r)) : Settles answer before l := by
  refine .intro ?_ ?_ ?_ <;> simp only [h, Multiset.mem_singleton, forall_eq]
  · exact hr
  · exact fun hne => absurd rfl hne
  · exact hafter

theorem settles_of_one {r : Request} (h : l.waiting = {r}) (hr : r ∉ before)
    (hend : (l.screen.handleResponse (answer r)).2.requests = []) : Settles answer before l :=
  settles_of_single h hr (settles_of_none (waiting_deliver_only h hend))

/-- Two requests whose answers can be exchanged settle if what is left after each of them does. -/
theorem settles_of_pair {a b : Request} (h : l.waiting = {a, b}) (hne : a ≠ b) (ha : a ∉ before)
    (hb : b ∉ before) (hcomm : l.screen.Commute (answer a) (answer b))
    (hafter : Settles answer (a :: before) (l.deliver answer a))
    (hbefore : Settles answer (b :: before) (l.deliver answer b)) : Settles answer before l := by
  have hswap := deliver_comm (by simp [h]) (by simp [h]) hne hcomm
  have hmem (r : Request) : r ∈ l.waiting ↔ r = a ∨ r = b := by simp [h]
  refine .intro (fun r hr => ?_) (fun r hr r' hr' hne => ?_) (fun r hr => ?_)
  · rcases (hmem r).mp hr with rfl | rfl
    · exact ha
    · exact hb
  · rcases (hmem r).mp hr with rfl | rfl <;> rcases (hmem r').mp hr' with rfl | rfl
    · rfl
    · exact hswap
    · exact hswap.symm
    · rfl
  · rcases (hmem r).mp hr with rfl | rfl
    · exact hafter
    · exact hbefore

/-- Two requests whose answers can be exchanged, and ask for nothing more. -/
theorem settles_of_two {a b : Request} (h : l.waiting = {a, b}) (hne : a ≠ b) (ha : a ∉ before)
    (hb : b ∉ before) (hcomm : l.screen.Commute (answer a) (answer b))
    (haend : (l.screen.handleResponse (answer a)).2.requests = [])
    (hbend : (l.screen.handleResponse (answer b)).2.requests = []) : Settles answer before l := by
  refine settles_of_pair h hne ha hb hcomm ?_ ?_
  · refine settles_of_one (r := b) (waiting_deliver_left h haend) ?_ ?_
    · simp [hb, Ne.symm hne]
    · rw [deliver, hcomm.right, hbend]
  · refine settles_of_one (r := a) (waiting_deliver_right h hne hbend) ?_ ?_
    · simp [ha, hne]
    · rw [deliver, hcomm.left, haend]

-- ==================================================== the loads of all addresses

section

variable (ctx : ScreenContext) (b : Backend Id)

/-- The screens that show one thing ask for it, and for nothing more when it comes. -/
theorem settles_of_reading {route : Route} {r : Request}
    (h : (Screen.ofRoute ctx route).2 = [r]) (hr : (b.execute r : Response).isReading = true) :
    Settles b.execute [] (opening ctx route) := by
  refine settles_of_one (r := r) ?_ List.not_mem_nil (Screen.requests_of_isReading _ hr)
  rw [opening, h]
  rfl

/-- The screens that show a function and something of it ask for both. -/
theorem settles_of_two_readings {route : Route} {r r' : Request}
    (h : (Screen.ofRoute ctx route).2 = [r, r']) (hne : r ≠ r')
    (hr : (b.execute r : Response).isReading = true)
    (hr' : (b.execute r' : Response).isReading = true)
    (hcomm : (Screen.ofRoute ctx route).1.Commute (b.execute r) (b.execute r')) :
    Settles b.execute [] (opening ctx route) := by
  refine settles_of_two (a := r) (b := r') ?_ hne List.not_mem_nil List.not_mem_nil hcomm
    (Screen.requests_of_isReading _ hr) (Screen.requests_of_isReading _ hr')
  rw [opening, h]
  rfl

/-- An execution asks for its function when it comes. -/
theorem requests_of_execution (s : ExecutionScreen) {id : String} {e : Execution}
    (he : b.getExecution id = .ok e) :
    ((Screen.execution s).handleResponse (b.execute (.getExecution id))).2.requests =
      [.getFunction e.functionId] := by
  show ((Screen.execution s).handleResponse (.execution (b.getExecution id))).2.requests = _
  rw [he]
  rfl

theorem requests_of_no_execution (s : ExecutionScreen) {id : String} {e : ApiError}
    (he : b.getExecution id = .error e) :
    ((Screen.execution s).handleResponse (b.execute (.getExecution id))).2.requests = [] := by
  show ((Screen.execution s).handleResponse (.execution (b.getExecution id))).2.requests = _
  rw [he]
  rfl

/-- An execution that comes after its logs settles, with its function if there is one to ask for. -/
theorem settles_after_logs {s : ExecutionScreen} {id : String} (hscreen : l.screen = .execution s)
    (hwaiting : l.waiting = {.getExecution id}) (hexecution : .getExecution id ∉ before)
    (hfunction : ∀ id', .getFunction id' ∉ before) : Settles b.execute before l := by
  refine settles_of_single hwaiting hexecution ?_
  cases he : b.getExecution id with
  | ok e =>
      have hrequests := requests_of_execution b s he
      rw [← hscreen] at hrequests
      refine settles_of_one (waiting_deliver_only hwaiting hrequests) ?_
        (Screen.requests_of_isReading _ rfl)
      simp [hfunction]
  | error e =>
      have hrequests := requests_of_no_execution b s he
      rw [← hscreen] at hrequests
      exact settles_of_none (waiting_deliver_only hwaiting hrequests)

/-- An execution and its logs settle: the logs may come before the execution, after it, or after its
function. -/
theorem settles_execution (id : String) : Settles b.execute [] (opening ctx (.execution id)) := by
  let s : ExecutionScreen := { id, page := .first ctx.pageSize }
  have hwaiting : (opening ctx (.execution id)).waiting = {.getExecution id, s.pageRequest} := rfl
  have hne : Request.getExecution id ≠ s.pageRequest := fun h => by cases h
  have hlogs (screen : Screen) :
      (screen.handleResponse (b.execute s.pageRequest)).2.requests = [] :=
    screen.requests_of_isReading rfl
  refine settles_of_pair hwaiting hne List.not_mem_nil List.not_mem_nil
    (Screen.commute_execution _ s _ _) ?_ ?_
  · -- the execution is the first: its function and the logs are left
    cases he : b.getExecution id with
    | ok e =>
        have hnext := waiting_deliver_left hwaiting (requests_of_execution b s he)
        refine settles_of_two (hnext.trans (add_comm _ _)) (fun h => by cases h) ?_ ?_ ?_
          (Screen.requests_of_isReading _ rfl) (hlogs _)
        · simp
        · simp [Ne.symm hne]
        · exact Screen.commute_execution_function _ _ _ _
    | error e =>
        have hnext := waiting_deliver_left hwaiting (requests_of_no_execution b s he)
        exact settles_of_one hnext (by simp [Ne.symm hne]) (hlogs _)
  · -- the logs are the first
    have hnext := waiting_deliver_right hwaiting hne (hlogs _)
    refine settles_after_logs b rfl hnext ?_ ?_
    · simp [hne]
    · exact fun id' h => by cases List.mem_singleton.mp h

/-- The first load of every screen settles. -/
theorem settles_opening (route : Route) : Settles b.execute [] (opening ctx route) := by
  cases route with
  | login | create | preview _ => exact settles_of_none rfl
  | functions => exact settles_of_reading ctx b rfl rfl
  | code id | settings id | test id => exact settles_of_reading ctx b rfl rfl
  | versions id =>
      refine settles_of_two_readings ctx b rfl (fun h => by cases h) rfl rfl ?_
      exact Screen.commute_versions _ _ _ _
  | executions id =>
      refine settles_of_two_readings ctx b rfl (fun h => by cases h) rfl rfl ?_
      exact Screen.commute_executions _ _ _ _
  | diff id old new =>
      refine settles_of_two_readings ctx b rfl (fun h => by cases h) rfl rfl ?_
      exact Screen.commute_diff _ _ _ rfl
  | execution id => exact settles_execution ctx b id

end

end Load

open Load (Delivers opening)

/-- The answers of a first load may come in any order. Whatever address is opened and however a
server answers, there is one last state: no request is made twice, from wherever the answers have
led so far the rest of them leads to that state, and once none is missing the screen is its screen
and the toasts are its toasts. -/
theorem first_loads_commute (ctx : ScreenContext) (route : Route) (b : Backend Id) :
    ∃ last : Load, last.waiting = 0 ∧
      ∀ order l, Delivers b.execute (opening ctx route) order l →
        order.Nodup ∧ (∃ rest, Delivers b.execute l rest last) ∧
          (l.waiting = 0 → l.screen = last.screen ∧ l.toasts = last.toasts) := by
  obtain ⟨last, hlast, hends⟩ := (Load.settles_opening ctx b route).last
  refine ⟨last, hlast, fun order l hdelivers => ?_⟩
  obtain ⟨hnodup, hrest, hend⟩ := hends order l hdelivers
  exact ⟨hnodup, hrest, fun hwaiting => ⟨congrArg Load.screen (hend hwaiting),
    congrArg Load.toasts (hend hwaiting)⟩⟩

end FunctionConsole
