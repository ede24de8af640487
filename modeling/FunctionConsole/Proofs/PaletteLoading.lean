import FunctionConsole.Proofs.PaletteResults
import FunctionConsole.Proofs.Run

/-!
# Loading behind the highlight

The palette can be used before its functions are there: it opens with the entries that need none,
and the others come with an answer of the server, at some moment between two keys. Whoever presses
the enter key around that moment should not have to know which came first.

The entries that are loaded come behind those that are there, and what matches among the first ones
matches still, in front of what matches among the others (`matched_prefix`). So every match stays
where it is, and with it the highlight. `highlight_outlasts_loading` says so of the palette, and of
the console in front of which it is open.
-/

namespace FunctionConsole

namespace PaletteItem

/-- More entries behind those that are there leave every match where it is. -/
theorem matched_prefix (front back : List PaletteItem) (query : String) :
    matched front query <+: matched (front ++ back) query := by
  rw [matched, matched, List.zipIdx_append, List.filter_append]
  exact List.prefix_append _ _

end PaletteItem

namespace Palette

open PaletteItem (matched)

variable {p : Palette}

-- ==================================================== keys before the answer

/-- The palette after some keys. -/
def press (p : Palette) (keys : List Key) : Palette :=
  keys.foldl (fun p key => (p.handleKey key).1) p

theorem handleKey_items (p : Palette) (key : Key) : (p.handleKey key).1.items = p.items := by
  rcases p.handleKey_cases key with heq | heq | heq | heq
  all_goals rw [heq]
  · rfl
  · rfl
  · by_cases hedited : (p.query.handleKey key).2 = .edited
    · rw [editQuery_of_edited hedited]
      rfl
    · rw [editQuery_of_not_edited hedited]

/-- Keys change neither the entries nor whether the palette is open. -/
theorem press_frame (p : Palette) (keys : List Key) :
    (p.press keys).items = p.items ∧ (p.press keys).isOpen = p.isOpen := by
  induction keys generalizing p with
  | nil => exact ⟨rfl, rfl⟩
  | cons key keys ih =>
      obtain ⟨hitems, hopen⟩ := ih (p.handleKey key).1
      exact ⟨hitems.trans (p.handleKey_items key), hopen.trans (p.handleKey_isOpen key)⟩

theorem press_coherent (h : p.Coherent) (keys : List Key) : (p.press keys).Coherent := by
  induction keys generalizing p with
  | nil => exact h
  | cons key keys ih => exact ih (handleKey_coherent h key)

-- ==================================================== the answer

section

variable (h : p.Coherent) (hitems : p.items = PaletteItem.navigation) (fs : List Function)

include h hitems

/-- What matched before the functions were loaded is what matches first afterwards. -/
theorem results_extend : p.results <+: (p.setFunctions fs).results := by
  have hloaded : (p.setFunctions fs).Coherent := refilter_coherent _
  rw [h.results, hloaded.results, hitems]
  exact (PaletteItem.matched_prefix _ _ _).map Prod.fst

theorem selected_setFunctions : (p.setFunctions fs).selected = p.selected := by
  have hloaded : (p.setFunctions fs).Coherent := refilter_coherent _
  have hlength := (results_extend h hitems fs).length_le
  rw [h.length_results, hloaded.length_results] at hlength
  have hselected := h.selected
  show min p.selected ((p.setFunctions fs).filtered.length - 1) = p.selected
  omega

/-- The highlighted entry is the same when the functions have been loaded. -/
theorem selectedItem_setFunctions {item : PaletteItem} (hitem : p.selectedItem = some item) :
    (p.setFunctions fs).selectedItem = some item := by
  have hloaded : (p.setFunctions fs).Coherent := refilter_coherent _
  rw [h.selectedItem] at hitem
  rw [hloaded.selectedItem, selected_setFunctions h hitems]
  obtain ⟨more, hmore⟩ := results_extend h hitems fs
  rw [← hmore, List.getElem?_append_left (List.getElem?_eq_some_iff.mp hitem).1]
  exact hitem

end

end Palette

-- ==================================================== the console behind it

namespace Console

/-- The functions that an answer brings to the palette: those of the page, none if it could not be
had, and nothing at all if the session is gone. -/
def broughtFunctions? : ApiError.Result FunctionList → Option (List Function)
  | .ok list => some list.rows
  | .error e => if e.isUnauthorized then none else some []

/-- An answer to the load of the open palette puts in the functions that it brings. -/
theorem process_loaded {c : Console} {result : ApiError.Result FunctionList} {fs : List Function}
    (hopen : c.palette.isOpen = true) (hfs : broughtFunctions? result = some fs) (now : Moment)
    (page : PageState) :
    c.process now (.api ⟨.palette, c.palette.generation⟩ (.functions page result)) =
      ({ c with palette := c.palette.setFunctions fs }, []) := by
  have hanswer : c.paletteResponse now (.functions page result) =
      ({ c with palette := c.palette.setFunctions fs }, .none) := by
    cases result with
    | ok list =>
        cases hfs
        rfl
    | error e =>
        unfold broughtFunctions? at hfs
        dsimp only at hfs
        split at hfs
        · cases hfs
        · next hkept =>
            cases hfs
            exact if_neg hkept
  rw [process_api]
  simp only [handleResponse, hopen, BEq.rfl, Bool.and_self, if_true, hanswer]
  rfl

end Console

namespace Palette

/-- The palette is opened, some keys go to it, and then its functions come, or the word that they
could not be had: the highlight stays on the entry it is on, which has its place among the matches,
and those that come are behind the ones that were there. So wherever this palette is in front, the
enter key opens the same screen before the answer and after it. -/
theorem highlight_outlasts_loading (p : Palette) (keys : List Key) (fs : List Function) :
    let shown := p.opened.press keys
    let loaded := shown.setFunctions fs
    shown.results <+: loaded.results ∧ loaded.selected = shown.selected ∧
    ∀ item, shown.selectedItem = some item →
      loaded.selectedItem = some item ∧
      (shown.handleKey .enter).2 = .navigate item.route ∧
      (loaded.handleKey .enter).2 = .navigate item.route ∧
      ∀ (c : Console) (now later : Moment) (page : PageState)
        (result : ApiError.Result FunctionList), c.confirm = none → c.palette = shown →
        Console.broughtFunctions? result = some fs →
        let answer : Message := .api ⟨.palette, shown.generation⟩ (.functions page result)
        (c.process now (.key .enter)).1.route = item.route ∧
          ((c.process now answer).1.process later (.key .enter)).1.route = item.route := by
  intro shown loaded
  have hcoherent : shown.Coherent := press_coherent (refilter_coherent _) keys
  obtain ⟨hitems, hopen⟩ : shown.items = PaletteItem.navigation ∧ shown.isOpen = true :=
    p.opened.press_frame keys
  refine ⟨results_extend hcoherent hitems fs, selected_setFunctions hcoherent hitems fs,
    fun item hitem => ?_⟩
  have hloaded : loaded.selectedItem = some item :=
    selectedItem_setFunctions hcoherent hitems fs hitem
  refine ⟨hloaded, by rw [handleKey_enter hitem], by rw [handleKey_enter hloaded],
    fun c now later page result hconfirm hpalette hfs => ?_⟩
  intro answer
  have hopen' : c.palette.isOpen = true := hpalette ▸ hopen
  have hanswered : (c.process now answer).1 = { c with palette := loaded } := by
    have hprocess := Console.process_loaded hopen' hfs now page
    rw [hpalette] at hprocess
    exact congrArg Prod.fst hprocess
  constructor
  · rw [Console.process_chosen hconfirm hopen' (hpalette ▸ hitem)]
    rfl
  · have hchosen : ({ c with palette := loaded } : Console).process later (.key .enter) =
        ({ c with palette := loaded.close } : Console).enter item.route :=
      Console.process_chosen hconfirm hopen hloaded
    rw [hanswered, hchosen]
    rfl

/-- A run in which the palette is opened, `f` is typed and the second match highlighted. A function
comes whose five entries match too, and the enter key opens the create screen before and after. -/
theorem second_match_outlasts_loading :
    let f : Function := ⟨"1", "first", none, false, ⟨1, ""⟩, .ofList [], none, none⟩
    let run : List Console.Input :=
      [⟨0, .startup .functions (some "secret")⟩, ⟨1, .api ⟨.view, 1⟩ (.loggedIn (.ok ()))⟩,
        ⟨2, .key (.ctrl 'k')⟩, ⟨3, .key (.char 'f')⟩, ⟨4, .key .down⟩]
    let c := (Console.start {}).through run
    let answer : Message :=
      .api ⟨.palette, c.palette.generation⟩ (.functions ⟨100, 0⟩ (.ok ⟨[f], ⟨1, 100, 0⟩⟩))
    let loaded := c.palette.setFunctions [f]
    (c.palette.results.length = 2 ∧ loaded.results.length = 7) ∧
      loaded.selectedItem = c.palette.selectedItem ∧
      (c.process 5 (.key .enter)).1.route = .create ∧
      ((c.process 5 answer).1.process 6 (.key .enter)).1.route = .create := by
  intro f run c answer loaded
  let item : PaletteItem :=
    ⟨"Create Function", "Create a new function", .create, .navigation, false⟩
  have hcounts : c.palette.results.length = 2 ∧ loaded.results.length = 7 := by decide +kernel
  have hpalette : c.palette = (Palette.opened {}).press [.char 'f', .down] := by decide +kernel
  have hconfirm : c.confirm = none := by decide +kernel
  have hitem : c.palette.selectedItem = some item := by decide +kernel
  clear_value c
  have h := (highlight_outlasts_loading {} [.char 'f', .down] [f]).2.2 item (hpalette ▸ hitem)
  rw [← hpalette] at h
  obtain ⟨hloaded, -, -, hconsole⟩ := h
  exact ⟨hcounts, hloaded.trans hitem.symm,
    hconsole c 5 6 ⟨100, 0⟩ (.ok ⟨[f], ⟨1, 100, 0⟩⟩) hconfirm rfl rfl⟩

end Palette

end FunctionConsole
