import FunctionConsole.Proofs.PagedList

/-!
# Scrolling by keys

The keys that move by lines leave everything else of a screen as it is, and bring the scroll to any
line that there is (`scrollAfter_home_downs`). So what such keys can show is a question of the scroll
alone, on the screen with a difference and on the one with logs.
-/

namespace FunctionConsole

namespace Screen

/-- The keys that move by lines, to the first line, and to the last. -/
def scrollKeys : List Key :=
  [.up, .char 'k', .down, .char 'j', .home, .char 'g', .toEnd, .char 'G']

/-- The scroll among so many lines after some keys. -/
def scrollAfter (count scroll : Nat) (keys : List Key) : Nat :=
  keys.foldl (fun scroll key => (moveScroll scroll count key).getD scroll) scroll

theorem scrollAfter_cons (count scroll : Nat) (key : Key) (keys : List Key) :
    scrollAfter count scroll (key :: keys) =
      scrollAfter count ((moveScroll scroll count key).getD scroll) keys := rfl

theorem moveScroll_isSome {key : Key} (h : key ∈ scrollKeys) (scroll count : Nat) :
    ∃ moved, moveScroll scroll count key = some moved := by
  simp only [scrollKeys, List.mem_cons, List.not_mem_nil, or_false] at h
  rcases h with rfl | rfl | rfl | rfl | rfl | rfl | rfl | rfl <;> exact ⟨_, rfl⟩

theorem scrollAfter_downs {count scroll n : Nat} (h : scroll + n < count) :
    scrollAfter count scroll (List.replicate n .down) = scroll + n := by
  induction n generalizing scroll with
  | zero => rfl
  | succ n ih =>
      have hdown : (moveScroll scroll count .down).getD scroll = scroll + 1 :=
        Nat.min_eq_left (by omega)
      rw [List.replicate_succ, scrollAfter_cons, hdown, ih (by omega)]
      omega

/-- The keys for the first line and the next one bring the scroll to any line. -/
theorem scrollAfter_home_downs {count i : Nat} (h : i < count) (scroll : Nat) :
    scrollAfter count scroll (.home :: List.replicate i .down) = i := by
  have hdowns : scrollAfter count 0 (List.replicate i .down) = 0 + i :=
    scrollAfter_downs (by omega)
  rw [Nat.zero_add] at hdowns
  exact hdowns

theorem home_downs_scroll (i : Nat) :
    ∀ key ∈ Key.home :: List.replicate i .down, key ∈ scrollKeys := by
  intro key hkey
  rcases List.mem_cons.mp hkey with rfl | hdown
  · decide
  · rw [(List.mem_replicate.mp hdown).2]
    decide

/-- Where each key moves the scroll alone, some keys do. -/
theorem after_keys {count : Nat} (screen : Nat → Screen)
    (hreact : ∀ scroll, ∀ key ∈ scrollKeys, ∀ moved, moveScroll scroll count key = some moved →
      (screen scroll).react (.key key) = screen moved)
    {keys : List Key} (h : ∀ key ∈ keys, key ∈ scrollKeys) (scroll : Nat) :
    (screen scroll).after (keys.map .key) = screen (scrollAfter count scroll keys) := by
  induction keys generalizing scroll with
  | nil => rfl
  | cons key keys ih =>
      have hkey := h key List.mem_cons_self
      obtain ⟨moved, hmoved⟩ := moveScroll_isSome hkey scroll count
      rw [List.map_cons, after, List.foldl_cons, hreact scroll key hkey moved hmoved,
        scrollAfter_cons, hmoved]
      exact ih (fun key' hkey' => h key' (List.mem_cons_of_mem _ hkey')) moved

end Screen

open Screen (scrollKeys scrollAfter)

/-- Keys that move by lines change the scroll of a difference, and nothing else. -/
theorem DiffScreen.after_scrollKeys (s : DiffScreen) {keys : List Key}
    (h : ∀ key ∈ keys, key ∈ scrollKeys) : (Screen.diff s).after (keys.map .key) =
      .diff { s with scroll := scrollAfter s.lineCount s.scroll keys } := by
  refine Screen.after_keys (fun scroll => .diff { s with scroll }) ?_ h s.scroll
  intro scroll key hkey moved hmoved
  have hhandle : handleKey { s with scroll } key = some ({ s with scroll := moved }, .none) := by
    unfold handleKey
    split
    · exact absurd hkey (by decide)
    · exact absurd hkey (by decide)
    · show (Screen.moveScroll scroll s.lineCount key).map _ = _
      rw [hmoved]
      rfl
  rw [Screen.react, Screen.handleKey, hhandle]
  rfl

/-- Keys that move by lines change the scroll of logs, and nothing else. -/
theorem ExecutionScreen.after_scrollKeys (s : ExecutionScreen) {keys : List Key}
    (h : ∀ key ∈ keys, key ∈ scrollKeys) : (Screen.execution s).after (keys.map .key) =
      .execution { s with scroll := scrollAfter s.logs.rows.length s.scroll keys } := by
  refine Screen.after_keys (fun scroll => .execution { s with scroll }) ?_ h s.scroll
  intro scroll key hkey moved hmoved
  have hpage : s.page.handleKey key s.logs.total = none := by
    unfold PageState.handleKey
    split
    case h_6 => rfl
    all_goals exact absurd hkey (by decide)
  rw [Screen.react, Screen.handleKey, handleKey, hpage]
  dsimp only
  rw [hmoved]
  rfl

end FunctionConsole
