import FunctionConsole.Screen

/-!
# Lists on their pages

Four screens show a list a page at a time: the functions, the versions, the executions and the logs
of an execution. Turning pages is quicker than the server, so several pages can be on their way at
once, and they come in any order.

`ListStep` is all that a key, or a response about something else, does to a list: it leaves it
alone, or it asks for a page and shows nothing until that has come. A response about the list itself
counts exactly if it is for the page that the screen is on. By induction over the events follows
`lists_match_their_page`: what is shown came for the page that the screen is on.
-/

namespace FunctionConsole

-- ==================================================== lists

/-- The lists that screens show a page at a time. -/
inductive ListKind where
  | functions
  | versions
  | executions
  | logs
  deriving DecidableEq, Repr

/-- A list on a screen: the page that the screen is on, and what has come of it. -/
structure PagedList (α : Type) where
  page : PageState
  content : Loadable (Listing α)

namespace ListKind

/-- What the rows of a list are. -/
abbrev Row : ListKind → Type
  | .functions => Function
  | .versions => Version
  | .executions => Execution
  | .logs => ExecutionLog

/-- The address of the screen with a list. Except for the functions, it is the list of something
that has an id. -/
def route (id : String) : ListKind → Route
  | .functions => .functions
  | .versions => .versions id
  | .executions => .executions id
  | .logs => .execution id

/-- The response about a page of a list. -/
def response : (kind : ListKind) → PageState → ApiError.Result (Listing kind.Row) → Response
  | .functions, page, result => .functions page result
  | .versions, page, result => .versions page result
  | .executions, page, result => .executions page result
  | .logs, page, result => .logs page result

end ListKind

/-- The page that a request asks a list for. -/
def Request.page? : ListKind → Request → Option PageState
  | .functions, .listFunctions limit offset => some ⟨limit, offset⟩
  | .versions, .listVersions _ limit offset => some ⟨limit, offset⟩
  | .executions, .listExecutions _ limit offset => some ⟨limit, offset⟩
  | .logs, .executionLogs _ limit offset => some ⟨limit, offset⟩
  | _, _ => none

/-- What a key, or a response about something else, does to a list: the list before, the list after,
and what the screen asks for. -/
inductive ListStep (kind : ListKind) (l : PagedList kind.Row) :
    PagedList kind.Row → List Request → Prop
  /-- The list stays as it is, and no page of it is asked for. -/
  | kept {requests : List Request} : (∀ r ∈ requests, r.page? kind = none) →
    ListStep kind l l requests
  /-- A page is asked for, and nothing is shown until it has come. -/
  | asked {page : PageState} (others : List Request) {request : Request} :
    request.page? kind = some page → ListStep kind l ⟨page, .loading⟩ (others ++ [request])

/-- Without requests a list is kept. -/
theorem ListStep.idle {kind : ListKind} (l : PagedList kind.Row) : ListStep kind l l [] :=
  .kept fun _ hr => by cases hr

-- ==================================================== keys, screen by screen

namespace FunctionsScreen

/-- The list of the functions. -/
def list (s : FunctionsScreen) : PagedList Function := ⟨s.page, s.functions⟩

theorem handleKey_list (s : FunctionsScreen) {s' : FunctionsScreen} {key : Key} {e : Effects}
    (h : s.handleKey key = some (s', e)) : ListStep .functions s.list s'.list e.requests := by
  have hkept : ListStep .functions s.list s.list [] := .idle _
  unfold handleKey at h
  split at h
  · cases h
    exact hkept
  · split at h
    · cases h
      exact hkept
    · cases h
      exact .asked [] rfl
    · split at h
      · split at h <;> cases h <;> exact hkept
      · cases h
        exact hkept
      · cases h

end FunctionsScreen

namespace VersionsScreen

/-- The list of the versions. -/
def list (s : VersionsScreen) : PagedList Version := ⟨s.page, s.versions⟩

theorem toggleChecked_list (s : VersionsScreen) (version : UInt32) :
    (s.toggleChecked version).list = s.list := by
  unfold toggleChecked
  split
  · rfl
  · split <;> rfl

theorem activate_requests (s : VersionsScreen) : s.activate.requests = [] := by
  unfold activate
  split
  · rfl
  · split <;> rfl

theorem handleKey_list (s : VersionsScreen) {s' : VersionsScreen} {key : Key} {e : Effects}
    (h : s.handleKey key = some (s', e)) : ListStep .versions s.list s'.list e.requests := by
  have hkept : ListStep .versions s.list s.list [] := .idle _
  unfold handleKey at h
  split at h
  · cases h
    exact hkept
  · split at h
    · cases h
      exact hkept
    · cases h
      exact .asked [] rfl
    · split at h
      · split at h <;> cases h
        · rw [toggleChecked_list]
          exact hkept
        · exact hkept
      · cases h
        rw [activate_requests]
        exact hkept
      · split at h <;> cases h <;> exact hkept
      · cases h

end VersionsScreen

namespace ExecutionsScreen

/-- The list of the executions. -/
def list (s : ExecutionsScreen) : PagedList Execution := ⟨s.page, s.executions⟩

theorem handleKey_list (s : ExecutionsScreen) {s' : ExecutionsScreen} {key : Key} {e : Effects}
    (h : s.handleKey key = some (s', e)) : ListStep .executions s.list s'.list e.requests := by
  have hkept : ListStep .executions s.list s.list [] := .idle _
  unfold handleKey at h
  split at h
  · cases h
    exact hkept
  · split at h
    · cases h
      exact hkept
    · cases h
      exact .asked [] rfl
    · split at h
      · split at h <;> cases h <;> exact hkept
      · cases h

end ExecutionsScreen

namespace ExecutionScreen

/-- The list of the logs. -/
def list (s : ExecutionScreen) : PagedList ExecutionLog := ⟨s.page, s.logs⟩

theorem handleKey_list (s : ExecutionScreen) {s' : ExecutionScreen} {key : Key} {e : Effects}
    (h : s.handleKey key = some (s', e)) : ListStep .logs s.list s'.list e.requests := by
  unfold handleKey at h
  split at h
  · cases h
    exact .idle _
  · cases h
    exact .asked [] rfl
  · obtain ⟨scroll, -, heq⟩ := Option.map_eq_some_iff.mp h
    cases heq
    exact .idle _

end ExecutionScreen

-- ==================================================== every screen

namespace Screen

/-- The list that a screen shows, if it is of this kind. -/
def list? : (kind : ListKind) → Screen → Option (PagedList kind.Row)
  | .functions, .functions s => some s.list
  | .versions, .versions s => some s.list
  | .executions, .executions s => some s.list
  | .logs, .execution s => some s.list
  | _, _ => none

/-- What holds of the four screens with a list holds of every list. -/
@[elab_as_elim]
theorem list_cases {motive : (kind : ListKind) → Screen → PagedList kind.Row → Prop}
    {kind : ListKind} {screen : Screen} {l : PagedList kind.Row} (h : screen.list? kind = some l)
    (functions : ∀ s, motive .functions (.functions s) s.list)
    (versions : ∀ s, motive .versions (.versions s) s.list)
    (executions : ∀ s, motive .executions (.executions s) s.list)
    (logs : ∀ s, motive .logs (.execution s) s.list) : motive kind screen l := by
  cases kind <;> cases screen <;> cases h
  case functions.functions s => exact functions s
  case versions.versions s => exact versions s
  case executions.executions s => exact executions s
  case logs.execution s => exact logs s

section

variable {kind : ListKind} {screen : Screen} {l : PagedList kind.Row}

/-- A fresh screen has asked for its page, last of all, and shows nothing yet. -/
theorem ofRoute_list {ctx : ScreenContext} {route : Route}
    (hl : (ofRoute ctx route).1.list? kind = some l) :
    ∃ page others request, l = ⟨page, .loading⟩ ∧ (ofRoute ctx route).2 = others ++ [request] ∧
      request.page? kind = some page := by
  cases kind <;> cases route <;> cases hl
  case functions.functions => exact ⟨_, [], _, rfl, rfl, rfl⟩
  case versions.versions id => exact ⟨_, [.getFunction id], _, rfl, rfl, rfl⟩
  case executions.executions id => exact ⟨_, [.getFunction id], _, rfl, rfl, rfl⟩
  case logs.execution id => exact ⟨_, [.getExecution id], _, rfl, rfl, rfl⟩

/-- A key turns no screen into one with another list. -/
theorem handleKey_list?_isSome {key : Key} {screen' : Screen} {e : Effects}
    (h : screen.handleKey key = some (screen', e)) (kind : ListKind) :
    (screen'.list? kind).isSome = (screen.list? kind).isSome := by
  cases screen <;> obtain ⟨p, hp, heq⟩ := Option.map_eq_some_iff.mp h <;> cases heq <;>
    cases kind <;> rfl

/-- A response turns no screen into one with another list. -/
theorem handleResponse_list?_isSome (screen : Screen) (r : Response) (kind : ListKind) :
    ((screen.handleResponse r).1.list? kind).isSome = (screen.list? kind).isSome := by
  cases screen <;> cases kind <;> rfl

/-- A key leaves the list as it is, or asks for a page of it. -/
theorem handleKey_list (hl : screen.list? kind = some l) {key : Key} {screen' : Screen}
    {e : Effects} (h : screen.handleKey key = some (screen', e)) :
    ∃ l', screen'.list? kind = some l' ∧ ListStep kind l l' e.requests := by
  revert h
  refine list_cases hl ?functions ?versions ?executions ?logs
  all_goals
    intro s h
    obtain ⟨p, hp, heq⟩ := Option.map_eq_some_iff.mp h
    cases heq
    exact ⟨_, rfl, s.handleKey_list hp⟩

/-- A page that the screen is not on is dropped, and so is word that it is not to be had. -/
theorem handleResponse_of_other_page (hl : screen.list? kind = some l) {page : PageState}
    (hpage : page ≠ l.page) (result : ApiError.Result (Listing kind.Row)) :
    screen.handleResponse (kind.response page result) = (screen, .none) := by
  revert hpage result
  refine list_cases hl ?functions ?versions ?executions ?logs
  all_goals
    intro s hpage result
    dsimp only [FunctionsScreen.list, VersionsScreen.list, ExecutionsScreen.list,
      ExecutionScreen.list] at hpage
    simp [ListKind.response, handleResponse, FunctionsScreen.handleResponse,
      VersionsScreen.handleResponse, ExecutionsScreen.handleResponse,
      ExecutionScreen.handleResponse, hpage]

/-- The page that the screen is on is shown as soon as it comes. -/
theorem handleResponse_of_page (hl : screen.list? kind = some l) (rows : Listing kind.Row) :
    (screen.handleResponse (kind.response l.page (.ok rows))).1.list? kind =
        some ⟨l.page, .loaded rows⟩ ∧
      (screen.handleResponse (kind.response l.page (.ok rows))).2 = .none := by
  revert rows
  refine list_cases hl ?functions ?versions ?executions ?logs
  all_goals
    intro s rows
    simp [ListKind.response, handleResponse, list?, FunctionsScreen.handleResponse,
      VersionsScreen.handleResponse, ExecutionsScreen.handleResponse,
      ExecutionScreen.handleResponse, FunctionsScreen.list, VersionsScreen.list,
      ExecutionsScreen.list, ExecutionScreen.list]

/-- Word that the page the screen is on is not to be had is shown and told. -/
theorem handleResponse_of_page_error (hl : screen.list? kind = some l) (e : ApiError) :
    (screen.handleResponse (kind.response l.page (.error e))).1.list? kind =
        some ⟨l.page, .notFound⟩ ∧
      (screen.handleResponse (kind.response l.page (.error e))).2 = .failure e.message := by
  refine list_cases hl ?functions ?versions ?executions ?logs
  all_goals
    intro s
    simp [ListKind.response, handleResponse, list?, FunctionsScreen.handleResponse,
      VersionsScreen.handleResponse, ExecutionsScreen.handleResponse,
      ExecutionScreen.handleResponse, FunctionsScreen.list, VersionsScreen.list,
      ExecutionsScreen.list, ExecutionScreen.list]

/-- A response about something else leaves the list as it is, or asks for a page of it. -/
theorem handleResponse_list (hl : screen.list? kind = some l) {r : Response}
    (hr : ∀ page result, r ≠ kind.response page result) :
    ∃ l', (screen.handleResponse r).1.list? kind = some l' ∧
      ListStep kind l l' (screen.handleResponse r).2.requests := by
  revert hr
  refine list_cases hl ?functions ?versions ?executions ?logs
  all_goals
    intro s hr
    refine ⟨_, rfl, ?_⟩
  case functions =>
      cases r with
      | functions page result => exact absurd rfl (hr page result)
      | _ => exact .idle _
  case versions =>
      cases r with
      | versions page result => exact absurd rfl (hr page result)
      | function result => cases result <;> exact .idle _
      | versionActivated version result =>
          cases result with
          | ok _ => exact .asked [.getFunction s.id] rfl
          | error e => exact .idle _
      | _ => exact .idle _
  case executions =>
      cases r with
      | executions page result => exact absurd rfl (hr page result)
      | function result => cases result <;> exact .idle _
      | _ => exact .idle _
  case logs =>
      cases r with
      | logs page result => exact absurd rfl (hr page result)
      | function result => cases result <;> exact .idle _
      | execution result =>
          cases result with
          | ok e => exact .kept fun _ h => List.mem_singleton.mp h ▸ rfl
          | error e => exact .idle _
      | _ => exact .idle _

end

end Screen

-- ==================================================== runs of events

/-- What a screen is told: a key, or a response. -/
inductive ScreenEvent where
  | key (k : Key)
  | response (r : Response)

namespace Screen

/-- The screen after an event. A key that is not the screen's own leaves it as it is. -/
def react (screen : Screen) : ScreenEvent → Screen
  | .key k => ((screen.handleKey k).map Prod.fst).getD screen
  | .response r => (screen.handleResponse r).1

/-- The screen after some events. -/
def after (screen : Screen) (events : List ScreenEvent) : Screen := events.foldl react screen

/-- What a screen shows of a list came for its page in one of these events. -/
def Matches (kind : ListKind) (l : PagedList kind.Row) (events : List ScreenEvent) : Prop :=
  ∀ rows, l.content = .loaded rows → .response (kind.response l.page (.ok rows)) ∈ events

/-- A key, or a response about something else, brings no list to be shown. -/
theorem Matches.step {kind : ListKind} {l l' : PagedList kind.Row} {requests : List Request}
    {events : List ScreenEvent} (h : Matches kind l events) (hstep : ListStep kind l l' requests) :
    Matches kind l' events := by
  cases hstep with
  | kept _ => exact h
  | asked _ _ =>
      intro rows hrows
      cases hrows

/-- One more event keeps a list to its page. -/
theorem list_react {kind : ListKind} {screen : Screen} {l : PagedList kind.Row}
    {events : List ScreenEvent} (hl : screen.list? kind = some l) (h : Matches kind l events)
    (event : ScreenEvent) :
    ∃ l', (screen.react event).list? kind = some l' ∧ Matches kind l' (events ++ [event]) := by
  have hearlier : Matches kind l (events ++ [event]) := fun rows hrows =>
    List.mem_append_left _ (h rows hrows)
  cases event with
  | key k =>
      cases hkey : screen.handleKey k with
      | none => exact ⟨l, by simpa [react, hkey] using hl, hearlier⟩
      | some p =>
          obtain ⟨l', hl', hstep⟩ := handleKey_list hl hkey
          exact ⟨l', by simpa [react, hkey] using hl', hearlier.step hstep⟩
  | response r =>
      by_cases hr : ∃ page result, r = kind.response page result
      · obtain ⟨page, result, rfl⟩ := hr
        by_cases hpage : page = l.page
        · subst hpage
          cases result with
          | ok rows =>
              refine ⟨_, (handleResponse_of_page hl rows).1, ?_⟩
              intro rows' hrows
              cases hrows
              exact List.mem_append_right _ (List.mem_singleton_self _)
          | error e =>
              refine ⟨_, (handleResponse_of_page_error hl e).1, ?_⟩
              intro rows' hrows
              cases hrows
        · refine ⟨l, ?_, hearlier⟩
          rw [react, handleResponse_of_other_page hl hpage]
          exact hl
      · have hother : ∀ page result, r ≠ kind.response page result := fun page result heq =>
          hr ⟨page, result, heq⟩
        obtain ⟨l', hl', hstep⟩ := handleResponse_list hl hother
        exact ⟨l', hl', hearlier.step hstep⟩

/-- After any more events a list is kept to its page. -/
theorem list_after {kind : ListKind} {screen : Screen} {l : PagedList kind.Row}
    {past : List ScreenEvent} (hl : screen.list? kind = some l) (h : Matches kind l past)
    (events : List ScreenEvent) :
    ∃ l', (screen.after events).list? kind = some l' ∧ Matches kind l' (past ++ events) := by
  induction events generalizing screen l past with
  | nil => exact ⟨l, hl, by rwa [List.append_nil]⟩
  | cons event rest ih =>
      obtain ⟨l₁, hl₁, h₁⟩ := list_react hl h event
      obtain ⟨l', hl', h'⟩ := ih hl₁ h₁
      exact ⟨l', hl', by rwa [List.append_assoc] at h'⟩

/-- A list is kept to its page. From its fresh screen on, whatever keys and responses come and in
whatever order: what is shown came in a response for the page that the screen is on; a response for
any other page, whether it brings the rows or a failure, changes nothing at all and tells nothing;
and a response for the page that the screen is on is never dropped, its rows are shown, or its
failure is shown and told. -/
theorem lists_match_their_page (kind : ListKind) (ctx : ScreenContext) (id : String)
    (events : List ScreenEvent) :
    let screen := (ofRoute ctx (kind.route id)).1.after events
    ∃ l, screen.list? kind = some l ∧
      (∀ rows, l.content = .loaded rows → .response (kind.response l.page (.ok rows)) ∈ events) ∧
      (∀ page result, page ≠ l.page →
        screen.handleResponse (kind.response page result) = (screen, .none)) ∧
      (∀ rows, let (next, effects) := screen.handleResponse (kind.response l.page (.ok rows))
        next.list? kind = some ⟨l.page, .loaded rows⟩ ∧ effects = .none) ∧
      ∀ e, let (next, effects) := screen.handleResponse (kind.response l.page (.error e))
        next.list? kind = some ⟨l.page, .notFound⟩ ∧ effects = .failure e.message := by
  intro screen
  have hfresh : (ofRoute ctx (kind.route id)).1.list? kind =
      some ⟨.first ctx.pageSize, .loading⟩ := by
    cases kind <;> rfl
  have hnothing : Matches kind ⟨.first ctx.pageSize, .loading⟩ [] := fun _ hrows => by
    cases hrows
  obtain ⟨l, hl, hmatches⟩ := list_after hfresh hnothing events
  exact ⟨l, hl, hmatches, fun page result hpage => handleResponse_of_other_page hl hpage result,
    handleResponse_of_page hl, handleResponse_of_page_error hl⟩

/-- The page size is changed twice while the versions are on their way. Of the three pages, the one
that the screen is on is shown; the other two come to nothing, one of them a failure. -/
theorem late_pages_are_dropped :
    let page (number : UInt32) : VersionList := ⟨[⟨number, 0, ""⟩], ⟨1, 20, 0⟩⟩
    let screen := (ofRoute ⟨20, ""⟩ (.versions "f")).1.after
      [.key (.char '+'), .key (.char '-'), .key (.char '-'),
        .response (.versions ⟨20, 0⟩ (.ok (page 1))), .response (.versions ⟨10, 0⟩ (.ok (page 2)))]
    screen.list? .versions = some ⟨⟨10, 0⟩, .loaded (page 2)⟩ ∧
      screen.handleResponse (.versions ⟨50, 0⟩ (.ok (page 3))) = (screen, .none) ∧
      screen.handleResponse (.versions ⟨20, 0⟩ (.error (.network "refused"))) =
        (screen, .none) := by
  intro page screen
  obtain ⟨l, hl, -, hdropped, -, -⟩ := lists_match_their_page .versions ⟨20, ""⟩ "f"
    [.key (.char '+'), .key (.char '-'), .key (.char '-'),
      .response (.versions ⟨20, 0⟩ (.ok (page 1))), .response (.versions ⟨10, 0⟩ (.ok (page 2)))]
  have hshown : screen.list? .versions = some ⟨⟨10, 0⟩, .loaded (page 2)⟩ := rfl
  obtain rfl := Option.some.inj (hl.symm.trans hshown)
  exact ⟨hshown, hdropped ⟨50, 0⟩ _ (by decide), hdropped ⟨20, 0⟩ _ (by decide)⟩

end Screen

end FunctionConsole
