import FunctionConsole.Proofs.Overlay

/-!
# Layers

A question and the palette are both drawn in front of the screen, and a key is meant for whatever is
in front. The update tries them in a fixed order, so that a question would win over an open palette;
this file shows that the order never decides anything, because the two are never there at once.

The palette opens only for a key that found nothing in front, and so does a question, since no
response raises one (`Outcome.exclusive`). While a question waits nothing but an answer to it, or
the key that quits, has any effect; while the palette is open nothing but its highlighted entry
leads away from the screen (`Outcome.behind_palette`). `keys_reach_front_layer` is what this comes
to for runs.
-/

namespace FunctionConsole

namespace Console

/-- No question waits while the palette is open. -/
def Exclusive (c : Console) : Prop := c.palette.isOpen = true → c.confirm = none

theorem startup_exclusive {c : Console} (h : c.palette.isOpen = false) (route : Route)
    (apiKey : Option String) : (c.startup route apiKey).1.Exclusive := by
  intro hopen
  rw [startup_palette, h] at hopen
  cases hopen

section

variable {c c' : Console} {now : Moment} {m : Message} {calls : List Call}

/-- Whatever a turn does, question and palette are not in front at once. -/
theorem Outcome.exclusive (h : Outcome c now m c' calls) (hc : c.Exclusive) : c'.Exclusive := by
  have huncovered (hc : c.Uncovered) (hopen : c.palette.isOpen = true) : False := by
    rw [hc.2] at hopen
    cases hopen
  cases h with
  | idle | received _ _ _ => exact hc
  | searched _ hopen _ => exact fun _ => hc hopen
  | opened hbefore _ => exact fun _ => hbefore.1
  | worked _ hbefore _ _ => exact fun hopen => (huncovered hbefore hopen).elim
  -- the question is answered, or another screen opens without one
  | _ => exact fun _ => rfl

/-- Behind the open palette the screen takes no key: it stays, and nothing goes out, unless the
highlighted entry is chosen. -/
theorem Outcome.behind_palette {key : Key} (h : Outcome c now (.key key) c' calls)
    (hconfirm : c.confirm = none) (hopen : c.palette.isOpen = true)
    (hkey : ¬ (key = .enter ∧ c.palette.selectedItem.isSome = true)) :
    c'.screen = c.screen ∧ c'.route = c.route ∧ c'.generation = c.generation ∧ calls = [] := by
  have hcovered (huncovered : c.Uncovered) : False := by
    rw [huncovered.2] at hopen
    cases hopen
  cases h with
  | idle | searched _ _ _ => exact ⟨rfl, rfl, rfl, rfl⟩
  | accepted _ hdialog | declined _ hdialog =>
      rw [hconfirm] at hdialog
      cases hdialog
  | chosen _ _ hitem => exact absurd ⟨rfl, by rw [hitem]; rfl⟩ hkey
  | opened hbefore _ | back hbefore _ | reloaded hbefore _ | tabbed _ hbefore _
  | loggedOut hbefore _ | worked _ hbefore _ _ | moved _ hbefore _ _ =>
      exact (hcovered hbefore).elim

end

theorem exclusive_through {c : Console} {inputs : List Input} (hc : c.Exclusive)
    (hexternal : ∀ i ∈ inputs, i.message.IsExternal) : (c.through inputs).Exclusive := by
  induction inputs generalizing c with
  | nil => exact hc
  | cons i rest ih =>
      have hi : (Turn.mk c i).input.message.IsExternal := hexternal i (by simp)
      exact ih ((Turn.outcome hi).exclusive hc) fun j hj => hexternal j (by simp [hj])

/-- At most one thing is in front of the screen, and it takes the keys. In every run question and
palette are not there at once. While a question waits, a key that is no answer and does not quit
leaves the state as it is and makes nothing happen. While the palette is open, the screen and its
address stay and nothing goes out, whatever the key; only the highlighted entry, when it is chosen,
opens its screen in place of the palette. -/
theorem keys_reach_front_layer (settings : Settings) (start₀ : Moment) (route : Route)
    (apiKey : Option String) {inputs : List Input}
    (hexternal : ∀ i ∈ inputs, i.message.IsExternal) :
    let c := (start settings).through (⟨start₀, .startup route apiKey⟩ :: inputs)
    ¬ (c.palette.isOpen = true ∧ c.confirm.isSome = true) ∧
      (c.confirm.isSome = true → ∀ now key,
        key ∉ [.ctrl 'c', .char 'y', .char 'Y', .enter, .char 'n', .char 'N', .esc] →
          c.update now (.key key) = (c, .none)) ∧
      (c.palette.isOpen = true → ∀ now,
        (∀ key, ¬ (key = .enter ∧ c.palette.selectedItem.isSome = true) →
          let left := c.process now (.key key)
          left.1.screen = c.screen ∧ left.1.route = c.route ∧ left.2 = []) ∧
        ∀ item, c.palette.selectedItem = some item →
          let left := c.process now (.key .enter)
          left.1.route = item.route ∧ left.1.palette.isOpen = false ∧
            left = { c with palette := c.palette.close }.enter item.route) := by
  intro c
  let first : Turn := ⟨start settings, start₀, .startup route apiKey⟩
  have hafter : first.after = ((start settings).startup route apiKey).1 := Turn.after_startup rfl
  have hfirst : first.after.Exclusive := by
    rw [hafter]
    exact startup_exclusive rfl route apiKey
  have hexclusive : c.Exclusive := exclusive_through (c := first.after) hfirst hexternal
  refine ⟨?_, ?_, ?_⟩
  · rintro ⟨hopen, hdialog⟩
    rw [hexclusive hopen] at hdialog
    cases hdialog
  · intro hdialog now key hkey
    simp only [List.mem_cons, List.not_mem_nil, or_false, not_or] at hkey
    obtain ⟨hquit, hy, hY, henter, hn, hN, hesc⟩ := hkey
    refine update_swallowed hquit ?_ ?_ hdialog
    · unfold Key.isYes
      split <;> simp_all
    · unfold Key.isNo
      split <;> simp_all
  · intro hopen now
    refine ⟨fun key hkey => ?_, fun item hitem => ?_⟩
    · have hbehind := (outcome_of_key c now key).behind_palette (hexclusive hopen) hopen hkey
      exact ⟨hbehind.1, hbehind.2.1, hbehind.2.2.2⟩
    · have hchosen : c.process now (.key .enter) =
          { c with palette := c.palette.close }.enter item.route :=
        process_chosen (hexclusive hopen) hopen hitem
      rw [hchosen]
      exact ⟨rfl, rfl, rfl⟩

/-- With the palette open over the list of functions, `q` only narrows the entries and Enter opens
the first of them; with a question about a version open, `q` does nothing at all. -/
theorem letters_behind_layers :
    let started : List Input :=
      [⟨0, .startup (.versions "f") (some "key")⟩, ⟨1, .api ⟨.view, 1⟩ (.loggedIn (.ok ()))⟩]
    let searching := (start {}).through (started ++ [⟨2, .key (.ctrl 'k')⟩])
    let asking := (start {}).through (started ++
      [⟨2, .api ⟨.view, 2⟩ (.versions ⟨20, 0⟩ (.ok ⟨[⟨7, 0, ""⟩], ⟨1, 20, 0⟩⟩))⟩,
        ⟨3, .key (.char 'a')⟩])
    searching.palette.isOpen = true ∧
      (searching.process 3 (.key (.char 'q'))).1.route = .versions "f" ∧
      (searching.process 3 (.key .enter)).1.route = .functions ∧
      asking.confirm.isSome = true ∧ asking.update 4 (.key (.char 'q')) = (asking, .none) := by
  intro started searching asking
  have hsearching : searching.palette.isOpen = true := by decide +kernel
  have hasking : asking.confirm.isSome = true := by decide +kernel
  obtain ⟨-, -, hpalette⟩ := keys_reach_front_layer {} 0 (.versions "f") (some "key")
    (show ∀ i ∈ ([⟨1, .api ⟨.view, 1⟩ (.loggedIn (.ok ()))⟩, ⟨2, .key (.ctrl 'k')⟩] : List Input),
      i.message.IsExternal by simp [Message.IsExternal])
  obtain ⟨-, hquestion, -⟩ := keys_reach_front_layer {} 0 (.versions "f") (some "key")
    (show ∀ i ∈ ([⟨1, .api ⟨.view, 1⟩ (.loggedIn (.ok ()))⟩,
        ⟨2, .api ⟨.view, 2⟩ (.versions ⟨20, 0⟩ (.ok ⟨[⟨7, 0, ""⟩], ⟨1, 20, 0⟩⟩))⟩,
        ⟨3, .key (.char 'a')⟩] : List Input), i.message.IsExternal by simp [Message.IsExternal])
  obtain ⟨hstays, hopens⟩ := hpalette hsearching 3
  have hroute : searching.route = .versions "f" := by decide +kernel
  refine ⟨hsearching, ?_, ?_, hasking, hquestion hasking 4 (.char 'q') (by decide)⟩
  · exact (hstays (.char 'q') (by simp)).2.1.trans hroute
  · exact (hopens ⟨"Functions", "View all functions", .functions, .navigation, false⟩
      (by decide +kernel)).1

end Console

end FunctionConsole
