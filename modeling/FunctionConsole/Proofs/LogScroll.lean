import FunctionConsole.Proofs.CallLogs
import FunctionConsole.Proofs.PagedList

/-!
# Scrolled logs

The logs of an execution are scrolled by a number of lines. A key moves this number within the page
that is shown, and turning to another page begins with its first line. But a page that comes leaves
the number as it is, and a page can come more than once: whoever turns away from it and back, or
changes the page size to and fro, has asked for it twice, and what comes last need not have as many
lines as what came first. Then the number is past the last line.

`Scrolled` is the invariant: the number is that of a line of some page of logs that came since the
screen turned to its page. `scroll_in_longest_logs` says what follows, and which event alone takes
the number out of the logs that are shown; `scroll_outside_shorter_logs` is a run in which it does.
-/

namespace FunctionConsole

/-- The numbers of lines of the logs that have come for the page that a screen is on, since it
turned to that page, the last ones first; `told` has those up to the event. -/
def Screen.toldLogs (told : List Nat) : Screen → ScreenEvent → List Nat
  | .execution s, .key k =>
    match s.page.handleKey k s.logs.total with
    | some (_, true) => []
    | _ => told
  | .execution s, .response (.logs page (.ok list)) =>
    if page = s.page then list.rows.length :: told else told
  | _, _ => told

/-- The same after some events. -/
def Screen.toldLogsAfter (told : List Nat) : Screen → List ScreenEvent → List Nat
  | _, [] => told
  | screen, event :: rest => toldLogsAfter (screen.toldLogs told event) (screen.react event) rest

namespace ExecutionScreen

/-- The first line to be shown is one of the logs that are shown; without a line it is line 0. -/
def InLogs (s : ExecutionScreen) : Prop :=
  ∀ list, s.logs = .loaded list → s.scroll ≤ list.rows.length - 1

/-- What is shown came last, and the scroll is the number of a line that has come. -/
structure Scrolled (told : List Nat) (s : ExecutionScreen) : Prop where
  last : ∀ list, s.logs = .loaded list → told.head? = some list.rows.length
  within : s.scroll = 0 ∨ ∃ n ∈ told, s.scroll < n

section

variable {s : ExecutionScreen} {told : List Nat}

/-- A movement key takes the scroll up by one line, to the first line, or within the logs. -/
theorem moveScroll_cases {scroll count : Nat} {key : Key} :
    ∀ moved ∈ Screen.moveScroll scroll count key, moved = scroll - 1 ∨ moved ≤ count - 1 := by
  unfold Screen.moveScroll
  split
  case h_1 | h_2 =>
      rintro _ ⟨⟩
      exact .inl rfl
  case h_3 | h_4 =>
      rintro _ ⟨⟩
      exact .inr (Nat.min_le_right _ _)
  case h_5 | h_6 =>
      rintro _ ⟨⟩
      exact .inr (Nat.zero_le _)
  case h_7 | h_8 =>
      rintro _ ⟨⟩
      exact .inr (Nat.le_refl _)
  case h_9 => simp

/-- A line of the logs that are shown has come. -/
theorem Scrolled.came (h : Scrolled told s) {line : Nat} (hline : line ≤ s.logs.rows.length - 1) :
    line = 0 ∨ ∃ n ∈ told, line < n := by
  cases hlogs : s.logs with
  | loaded list =>
      have hmem : list.rows.length ∈ told := List.mem_of_head? (h.last list hlogs)
      rw [hlogs] at hline
      obtain hzero | hpos := Nat.eq_zero_or_pos line
      · exact .inl hzero
      · refine .inr ⟨_, hmem, ?_⟩
        have hrows : line ≤ list.rows.length - 1 := hline
        omega
  | loading | notFound =>
      rw [hlogs] at hline
      exact .inl (Nat.le_zero.mp hline)

/-- A key turns to another page, whose logs have yet to come, or moves within those that came. -/
theorem Scrolled.key (h : Scrolled told s) (key : Key) :
    ∃ s', (Screen.execution s).react (.key key) = .execution s' ∧
      Scrolled ((Screen.execution s).toldLogs told (.key key)) s' := by
  rw [Screen.toldLogs, Screen.react, Screen.handleKey, handleKey]
  rcases s.page.handleKey key s.logs.total with _ | ⟨page, _ | _⟩
  · cases hmove : Screen.moveScroll s.scroll s.logs.rows.length key with
    | none => exact ⟨s, rfl, h⟩
    | some moved =>
        refine ⟨{ s with scroll := moved }, rfl, h.last, ?_⟩
        rcases moveScroll_cases moved hmove with hup | hrows
        · -- one line up is still before a line that came
          rcases h.within with hzero | ⟨n, hn, hlt⟩
          · exact .inl (show moved = 0 by omega)
          · exact .inr ⟨n, hn, show moved < n by omega⟩
        · exact h.came hrows
  · exact ⟨s, rfl, h⟩
  · refine ⟨s.turnTo page, rfl, fun list hlist => ?_, .inl rfl⟩
    cases hlist

/-- Logs come for the page of the screen and are shown, or nothing is changed about logs. -/
theorem Scrolled.response (h : Scrolled told s) (r : Response) :
    Scrolled ((Screen.execution s).toldLogs told (.response r)) (s.handleResponse r).1 := by
  cases r with
  | logs page result =>
      by_cases hpage : page = s.page
      · subst hpage
        cases result with
        | ok list =>
            rw [Screen.toldLogs, if_pos rfl, handleResponse, if_neg (not_not.mpr rfl)]
            refine ⟨fun list' heq => ?_, ?_⟩
            · cases heq
              rfl
            · obtain hzero | ⟨n, hn, hlt⟩ := h.within
              · exact .inl hzero
              · exact .inr ⟨n, List.mem_cons_of_mem _ hn, hlt⟩
        | error e =>
            rw [handleResponse, if_neg (not_not.mpr rfl)]
            refine ⟨fun list hlist => ?_, h.within⟩
            cases hlist
      · have hdropped : s.handleResponse (.logs page result) = (s, .none) := if_pos hpage
        rw [hdropped]
        cases result with
        | ok list =>
            rw [Screen.toldLogs, if_neg hpage]
            exact h
        | error e => exact h
  | execution result | function result =>
      cases result with
      | ok _ | error _ => exact ⟨h.last, h.within⟩
  | _ => exact h

theorem Scrolled.after (h : Scrolled told s) (events : List ScreenEvent) :
    ∃ s', (Screen.execution s).after events = .execution s' ∧
      Scrolled ((Screen.execution s).toldLogsAfter told events) s' := by
  induction events generalizing s told with
  | nil => exact ⟨s, rfl, h⟩
  | cons event rest ih =>
      obtain ⟨s₁, hreact, h₁⟩ : ∃ s₁, (Screen.execution s).react event = .execution s₁ ∧
          Scrolled ((Screen.execution s).toldLogs told event) s₁ := by
        cases event with
        | key k => exact h.key k
        | response r => exact ⟨_, rfl, h.response r⟩
      obtain ⟨s', hafter, h'⟩ := ih h₁
      refine ⟨s', ?_, ?_⟩
      · rw [Screen.after, List.foldl_cons, hreact]
        exact hafter
      · rw [Screen.toldLogsAfter, hreact]
        exact h'

/-- No key takes the scroll out of the logs. -/
theorem InLogs.key (h : s.InLogs) (key : Key) : ∀ p ∈ s.handleKey key, p.1.InLogs := by
  rw [handleKey]
  split
  · simpa using h
  · rintro _ ⟨⟩
    exact nofun
  · rintro p hp
    obtain ⟨moved, hmove, rfl⟩ := Option.map_eq_some_iff.mp hp
    intro list hlist
    have hscroll := h list hlist
    show moved ≤ list.rows.length - 1
    have hcases := moveScroll_cases moved hmove
    rw [show s.logs = .loaded list from hlist, Loadable.rows] at hcases
    omega

/-- Of all responses only logs for the page of the screen can take the scroll out of the logs, and
they do where they have no line of that number. -/
theorem InLogs.response_iff (h : s.InLogs) (r : Response) : ¬ (s.handleResponse r).1.InLogs ↔
    ∃ list, r = .logs s.page (.ok list) ∧ list.rows.length - 1 < s.scroll := by
  by_cases hlogs : ∃ list, r = .logs s.page (.ok list)
  · obtain ⟨list, rfl⟩ := hlogs
    rw [handleResponse, if_neg (not_not.mpr rfl)]
    simp [InLogs]
  · -- whatever else comes leaves the logs and the scroll, or leaves no logs
    have hstays : (s.handleResponse r).1.InLogs := by
      unfold handleResponse
      split
      case h_4 page result =>
          split
          · exact h
          · next hpage =>
            split
            · next list => exact absurd ⟨list, by rw [not_not.mp hpage]⟩ hlogs
            · intro list hlist
              cases hlist
      all_goals exact h
    simp only [not_true_eq_false, hstays, false_iff]
    rintro ⟨list, rfl, -⟩
    exact hlogs ⟨list, rfl⟩

/-- The keys for the next line, the first and the last bring the scroll back into the logs. -/
theorem inLogs_of_back {key : Key}
    (hkey : key ∈ [.down, .char 'j', .home, .char 'g', .toEnd, .char 'G']) :
    ∀ p ∈ s.handleKey key, p.1.InLogs := by
  have hturn : s.page.handleKey key s.logs.total = none := by
    simp only [List.mem_cons, List.not_mem_nil, or_false] at hkey
    rcases hkey with rfl | rfl | rfl | rfl | rfl | rfl <;> simp [PageState.handleKey]
  have hback : ∀ moved ∈ Screen.moveScroll s.scroll s.logs.rows.length key,
      moved ≤ s.logs.rows.length - 1 := by
    simp only [List.mem_cons, List.not_mem_nil, or_false] at hkey
    rcases hkey with rfl | rfl | rfl | rfl | rfl | rfl
    all_goals
      rintro _ ⟨⟩
      omega
  rw [handleKey, hturn]
  intro p hp list hlist
  obtain ⟨moved, hmove, rfl⟩ := Option.map_eq_some_iff.mp hp
  have hrows := hback moved hmove
  rw [show s.logs = .loaded list from hlist] at hrows
  exact hrows

end

/-- Whatever keys and responses come: where logs are shown, they are those that came last for the
page, and the scroll is the number of a line of some logs that came for it since the screen turned
to it; so it is within the logs that are shown unless longer ones came before them. Within the logs
no key takes it out of them, and of all responses only logs for the page do, exactly those without a
line of that number. The keys for the next line, the first and the last bring it back. -/
theorem scroll_in_longest_logs (ctx : ScreenContext) (id : String) (events : List ScreenEvent) :
    let opened := (Screen.ofRoute ctx (.execution id)).1
    let told := opened.toldLogsAfter [] events
    ∃ s, opened.after events = .execution s ∧
      (∀ list, s.logs = .loaded list → told.head? = some list.rows.length ∧
        (s.scroll = 0 ∨ ∃ n ∈ told, s.scroll < n) ∧
        ((∀ n ∈ told, n ≤ list.rows.length) → s.scroll ≤ list.rows.length - 1)) ∧
      (s.InLogs → (∀ key, ∀ p ∈ s.handleKey key, p.1.InLogs) ∧
        ∀ r, ¬ (s.handleResponse r).1.InLogs ↔
          ∃ list, r = .logs s.page (.ok list) ∧ list.rows.length - 1 < s.scroll) ∧
      ∀ key ∈ [Key.down, .char 'j', .home, .char 'g', .toEnd, .char 'G'],
        ∀ p ∈ s.handleKey key, p.1.InLogs := by
  intro opened told
  have hnone : Scrolled [] (ExecutionScreen.enter id ctx).1 := ⟨nofun, .inl rfl⟩
  obtain ⟨s, hafter, h⟩ := hnone.after events
  refine ⟨s, hafter, fun list hlist => ⟨h.last list hlist, h.within, fun hlongest => ?_⟩,
    fun hin => ⟨hin.key, hin.response_iff⟩, fun key hkey => inLogs_of_back hkey⟩
  rcases h.within with hzero | ⟨n, hn, hlt⟩
  · omega
  · have hle := hlongest n hn
    omega

-- ==================================================== a page that comes again, shorter

/-- Logs of so many lines. -/
def linesOf (count : Nat) : LogList := ⟨List.replicate count ⟨1, "e", .info, "done", 0⟩, ⟨60, 20, 0⟩⟩

/-- A server whose logs have so many lines. -/
def serverOf (count : Nat) : Backend Id :=
  { refusingServer (.network "refused") with executionLogs := fun _ _ _ => .ok (linesOf count) }

/-- The page size is changed to and fro while the first page is on its way, so that this is asked
for twice. The answer that comes first has three lines, and the last of them is scrolled to; the
other answer has one line, and leaves the scroll at the third. -/
theorem scroll_outside_shorter_logs :
    let page : PageState := ⟨20, 0⟩
    let ask (limit : UInt64) : Exchange := .sent (.executionLogs "e" limit 0)
    let log : List Exchange := [.sent (.getExecution "e"), ask 20, ask 50, ask 20,
      .answered 1 (.logs page (.ok (linesOf 3))), .answered 3 (.logs page (.ok (linesOf 1)))]
    let s : ExecutionScreen := { id := "e", page, logs := .loaded (linesOf 1), scroll := 2 }
    Screen.History log (.execution s) ∧ ¬ s.InLogs := by
  intro page ask log s
  have hopened : Screen.History [.sent (.getExecution "e"), ask 20]
      (.execution { id := "e", page }) :=
    .opened (.address ⟨20, ""⟩ (.execution "e"))
  have hmore := hopened.press (.char '+') (.execution { id := "e", page := ⟨50, 0⟩ })
    [.executionLogs "e" 50 0] rfl
  have hless := hmore.press (.char '-') (.execution { id := "e", page })
    [.executionLogs "e" 20 0] rfl
  have hthree := hless.receive 1 (.logs page (.ok (linesOf 3))) ⟨rfl, by simp⟩
    ⟨serverOf 3, rfl⟩ rfl rfl
  have hend := hthree.press .toEnd
    (.execution { id := "e", page, logs := .loaded (linesOf 3), scroll := 2 }) [] rfl
  have hone := hend.receive 3 (.logs page (.ok (linesOf 1))) ⟨rfl, by simp⟩
    ⟨serverOf 1, rfl⟩ rfl rfl
  exact ⟨hone, fun hin => absurd (hin _ rfl) (by decide)⟩

end ExecutionScreen

end FunctionConsole
