import FunctionConsole.Palette
import Mathlib.Data.List.Infix

/-!
# What the palette shows

The palette keeps four things that have to fit together: its entries, the query, the positions of
the entries that match it, and which of these is highlighted. They are changed one at a time, by
typing, by moving the highlight, by loading and by opening anew.

`Coherent` says how they fit together, and every operation keeps it (`apply_coherent`), so that it
holds of every palette that can come about. `matched` is what such a palette shows, each entry with
its position. From it follows `results_match_query`: what is shown are exactly the entries in which
the query occurs, in their order; the highlight is on one of them as long as there is any, and goes
to the first when the query is edited.
-/

namespace FunctionConsole

/-- A text is found by looking for it from every place on exactly if it is a piece. -/
theorem Text.occursIn_iff {pat l : List Char} : Text.occursIn pat l = true ↔ pat <:+: l := by
  induction l with
  | nil => rw [occursIn, List.isEmpty_iff, List.infix_nil]
  | cons c rest ih =>
      rw [occursIn, Bool.or_eq_true, List.isPrefixOf_iff_prefix, ih, List.infix_cons_iff]

-- ==================================================== entries that match

namespace PaletteItem

/-- The query occurs in the label or in the description of an entry, the query trimmed and all of
them in lower case. -/
def Found (item : PaletteItem) (query : String) : Prop :=
  needle query <:+: Text.lower item.label.toList ∨
    needle query <:+: Text.lower item.description.toList

/-- The test that the entries are filtered by. -/
def isFound (query : String) (item : PaletteItem) : Bool :=
  (needle query).isEmpty || item.isMatch (needle query)

theorem isFound_iff {query : String} {item : PaletteItem} :
    isFound query item = true ↔ item.Found query := by
  rw [isFound, isMatch, Bool.or_eq_true, Bool.or_eq_true, Text.occursIn_iff, Text.occursIn_iff,
    List.isEmpty_iff]
  apply or_iff_right_of_imp
  intro hempty
  rw [hempty]
  exact .inl List.nil_infix

/-- The entries that match a query, each with its position. -/
def matched (items : List PaletteItem) (query : String) : List (PaletteItem × Nat) :=
  items.zipIdx.filter fun x => isFound query x.1

theorem positions_eq (p : PaletteItem → Bool) (i : Nat) (items : List PaletteItem) :
    positions p i items = ((items.zipIdx i).filter fun x => p x.1).map Prod.snd := by
  induction items generalizing i with
  | nil => rfl
  | cons item rest ih =>
      rw [positions, List.zipIdx_cons, List.filter_cons, ih]
      by_cases h : p item = true
      · rw [if_pos h, if_pos h, List.map_cons]
      · rw [if_neg h, if_neg h]

variable {items : List PaletteItem} {query : String}

theorem filter_eq : filter items query = (matched items query).map Prod.snd :=
  positions_eq _ 0 items

theorem mem_matched {x : PaletteItem × Nat} :
    x ∈ matched items query ↔ items[x.2]? = some x.1 ∧ x.1.Found query := by
  rw [matched, List.mem_filter, List.mem_zipIdx_iff_getElem?, isFound_iff]

theorem mem_filter_iff {i : Nat} :
    i ∈ filter items query ↔ ∃ item, items[i]? = some item ∧ item.Found query := by
  rw [filter_eq, List.mem_map]
  constructor
  · intro ⟨x, hx, heq⟩
    rw [← heq]
    exact ⟨x.1, mem_matched.mp hx⟩
  · intro ⟨item, hitem⟩
    exact ⟨(item, i), mem_matched.mpr hitem, rfl⟩

theorem filter_sublist : (filter items query).Sublist (List.range items.length) := by
  have hall : items.zipIdx.map Prod.snd = List.range items.length := by
    rw [List.zipIdx_map_snd, List.range_eq_range']
  rw [filter_eq, ← hall]
  exact List.filter_sublist.map Prod.snd

theorem filter_ascending : (filter items query).Pairwise (· < ·) :=
  List.pairwise_lt_range.sublist filter_sublist

theorem needle_of_blank (h : Text.isAllBlank query = true) : needle query = [] := by
  rw [needle, Text.trimChars_eq_nil_iff.mpr h]
  rfl

theorem filter_of_blank (h : Text.isAllBlank query = true) :
    filter items query = List.range items.length := by
  have hmatched : matched items query = items.zipIdx := by
    refine List.filter_eq_self.mpr fun x _ => ?_
    rw [isFound, needle_of_blank h]
    rfl
  rw [filter_eq, hmatched, List.zipIdx_map_snd, List.range_eq_range']

/-- Without their positions the entries that match are those that pass the test. -/
theorem map_fst_matched : (matched items query).map Prod.fst = items.filter (isFound query) := by
  have hfilter := List.filter_map (f := Prod.fst) (p := isFound query) (l := items.zipIdx)
  rw [List.zipIdx_map_fst] at hfilter
  exact hfilter.symm

end PaletteItem

-- ==================================================== operations

namespace Palette

open PaletteItem (matched)

/-- What can be done to a palette. -/
inductive Action where
  | opened
  | close
  | setFunctions (fs : List Function)
  | setQuery (query : String)
  | selectNext
  | selectPrevious
  | key (k : Key)

/-- The palette after an operation. -/
def Action.apply (p : Palette) : Action → Palette
  | .opened => p.opened
  | .close => p.close
  | .setFunctions fs => p.setFunctions fs
  | .setQuery query => p.setQuery query
  | .selectNext => p.selectNext
  | .selectPrevious => p.selectPrevious
  | .key k => (p.handleKey k).1

/-- The operations that edit the query: opening empties it, and some keys do. -/
def Action.EditsQuery (p : Palette) : Action → Prop
  | .opened | .setQuery _ => True
  | .key k => (p.query.handleKey k).2 = .edited
  | _ => False

/-- The positions are those of the entries that match the query, and the highlight is on one of them
if there is any. -/
structure Coherent (p : Palette) : Prop where
  filtered : p.filtered = PaletteItem.filter p.items p.query.value
  selected : p.selected ≤ p.filtered.length - 1

theorem refilter_coherent (p : Palette) : p.refilter.Coherent :=
  ⟨rfl, Nat.min_le_right _ _⟩

variable {p : Palette} {key : Key}

/-- A key moves the highlight, or goes to the query, or does nothing to the palette. -/
theorem handleKey_cases (p : Palette) (key : Key) :
    (p.handleKey key).1 = p ∨ (p.handleKey key).1 = p.selectPrevious ∨
      (p.handleKey key).1 = p.selectNext ∨ (p.handleKey key).1 = p.editQuery key := by
  unfold handleKey
  split
  case h_1 | h_2 => exact .inl rfl
  case h_3 | h_4 => exact .inr (.inl rfl)
  case h_5 | h_6 => exact .inr (.inr (.inl rfl))
  case h_7 => split <;> exact .inl rfl
  case h_8 => exact .inr (.inr (.inr rfl))

/-- A key that edits the query is none of the palette's own. -/
theorem handleKey_edited (h : (p.query.handleKey key).2 = .edited) :
    (p.handleKey key).1 = p.editQuery key := by
  unfold handleKey
  split
  case h_8 => rfl
  all_goals cases h

/-- A key that does not edit the query leaves its text as it is. -/
theorem value_handleKey (h : (p.query.handleKey key).2 ≠ .edited) :
    (p.query.handleKey key).1.value = p.query.value := by
  have hchanged : (p.query.handleKey key).2.changed = false := by
    simpa [KeyEffect.changed] using h
  rw [TextInput.value, TextInput.chars_handleKey hchanged]
  rfl

theorem editQuery_of_edited (h : (p.query.handleKey key).2 = .edited) :
    p.editQuery key = refilter { p with query := (p.query.handleKey key).1, selected := 0 } := by
  unfold editQuery
  dsimp only
  rw [h]
  rfl

theorem editQuery_of_not_edited (h : (p.query.handleKey key).2 ≠ .edited) :
    p.editQuery key = { p with query := (p.query.handleKey key).1 } := by
  unfold editQuery
  dsimp only
  exact if_neg (by simpa [KeyEffect.changed] using h)

section

variable (h : p.Coherent)

include h

theorem selectNext_coherent : p.selectNext.Coherent :=
  ⟨h.filtered, Nat.min_le_right _ _⟩

theorem selectPrevious_coherent : p.selectPrevious.Coherent :=
  ⟨h.filtered, Nat.le_trans (Nat.sub_le _ _) h.selected⟩

theorem editQuery_coherent (key : Key) : (p.editQuery key).Coherent := by
  by_cases hedited : (p.query.handleKey key).2 = .edited
  · rw [editQuery_of_edited hedited]
    exact refilter_coherent _
  · rw [editQuery_of_not_edited hedited]
    refine ⟨?_, h.selected⟩
    show p.filtered = PaletteItem.filter p.items (p.query.handleKey key).1.value
    rw [value_handleKey hedited]
    exact h.filtered

theorem handleKey_coherent (key : Key) : (p.handleKey key).1.Coherent := by
  rcases p.handleKey_cases key with heq | heq | heq | heq
  all_goals rw [heq]
  · exact h
  · exact selectPrevious_coherent h
  · exact selectNext_coherent h
  · exact editQuery_coherent h key

theorem apply_coherent (action : Action) : (action.apply p).Coherent := by
  cases action with
  | opened | setFunctions fs | setQuery query => exact refilter_coherent _
  | close => exact ⟨h.filtered, h.selected⟩
  | selectNext => exact selectNext_coherent h
  | selectPrevious => exact selectPrevious_coherent h
  | key k => exact handleKey_coherent h k

end

theorem actions_coherent (h : p.Coherent) (actions : List Action) :
    (actions.foldl Action.apply p).Coherent := by
  induction actions generalizing p with
  | nil => exact h
  | cons action actions ih => exact ih (apply_coherent h action)

-- ==================================================== the query

theorem selected_of_editsQuery {action : Action} (h : action.EditsQuery p) :
    (action.apply p).selected = 0 := by
  cases action with
  | opened | setQuery query => exact Nat.zero_min _
  | key k =>
      rw [Action.apply, handleKey_edited h, editQuery_of_edited h]
      exact Nat.zero_min _
  | close | setFunctions fs | selectNext | selectPrevious => cases h

theorem value_of_not_editsQuery {action : Action} (h : ¬ action.EditsQuery p) :
    (action.apply p).query.value = p.query.value := by
  cases action with
  | opened | setQuery query => exact absurd trivial h
  | key k =>
      rcases p.handleKey_cases k with heq | heq | heq | heq
      · rw [Action.apply, heq]
      · rw [Action.apply, heq]
        rfl
      · rw [Action.apply, heq]
        rfl
      · rw [Action.apply, heq, editQuery_of_not_edited h]
        exact value_handleKey h
  | close | setFunctions fs | selectNext | selectPrevious => rfl

-- ==================================================== what is shown

section

variable (h : p.Coherent)

include h

theorem Coherent.results : p.results = (matched p.items p.query.value).map Prod.fst := by
  rw [Palette.results, h.filtered, PaletteItem.filter_eq, List.filterMap_map,
    ← List.filterMap_eq_map]
  apply List.filterMap_congr
  intro x hx
  exact (PaletteItem.mem_matched.mp hx).1

theorem Coherent.length_results : p.results.length = p.filtered.length := by
  rw [h.results, h.filtered, PaletteItem.filter_eq, List.length_map, List.length_map]

theorem Coherent.selectedItem : p.selectedItem = p.results[p.selected]? := by
  rw [h.results, Palette.selectedItem, h.filtered, PaletteItem.filter_eq, List.getElem?_map,
    List.getElem?_map]
  cases hget : (matched p.items p.query.value)[p.selected]? with
  | none => rfl
  | some x => exact (PaletteItem.mem_matched.mp (List.mem_of_getElem? hget)).1

theorem Coherent.inRange : p.selected < p.results.length ∨ p.results = [] ∧ p.selected = 0 := by
  have hselected := h.selected
  rw [← h.length_results] at hselected
  by_cases hnone : p.results = []
  · rw [hnone] at hselected
    exact .inr ⟨hnone, Nat.le_zero.mp hselected⟩
  · have hpos := List.length_pos_iff.mpr hnone
    exact .inl (by omega)

theorem Coherent.selectedItem_isSome : p.selectedItem.isSome = true ↔ p.results ≠ [] := by
  rw [h.selectedItem]
  rcases h.inRange with hlt | ⟨hnone, -⟩
  · rw [List.getElem?_eq_getElem hlt]
    exact iff_of_true rfl (List.length_pos_iff.mp (Nat.zero_lt_of_lt hlt))
  · rw [hnone]
    exact iff_of_false (by simp) (by simp)

end

theorem handleKey_enter {item : PaletteItem} (h : p.selectedItem = some item) :
    p.handleKey .enter = (p, .navigate item.route) := by
  simp only [handleKey, h]

theorem handleKey_enter_of_none (h : p.selectedItem = none) : p.handleKey .enter = (p, .none) := by
  simp only [handleKey, h]

/-- The palette after any operations, from the one that was never opened on. What is shown are the
entries that match the query, in ascending order, and no others; for a blank query these are all.
The highlight is on one of them, and on the first after every edit of the query, as long as there is
any; the enter key leads to the entry that is highlighted, and nowhere if there is none. -/
theorem results_match_query (actions : List Action) :
    let p : Palette := actions.foldl Action.apply {}
    (p.filtered = PaletteItem.filter p.items p.query.value ∧
      p.filtered.Pairwise (· < ·) ∧
      (∀ i, i ∈ p.filtered ↔ ∃ item, p.items[i]? = some item ∧ item.Found p.query.value) ∧
      (Text.isAllBlank p.query.value = true → p.filtered = List.range p.items.length) ∧
      p.results = p.items.filter (PaletteItem.isFound p.query.value)) ∧
    (p.results.length = p.filtered.length ∧
      (p.selected < p.results.length ∨ p.results = [] ∧ p.selected = 0) ∧
      p.selectedItem = p.results[p.selected]? ∧
      (p.selectedItem.isSome = true ↔ p.results ≠ [])) ∧
    (∀ action : Action, (action.EditsQuery p → (action.apply p).selected = 0) ∧
      (¬ action.EditsQuery p → (action.apply p).query.value = p.query.value)) ∧
    (∀ item, p.selectedItem = some item → p.handleKey .enter = (p, .navigate item.route)) ∧
    (p.results = [] → p.handleKey .enter = (p, .none)) := by
  intro p
  have h : p.Coherent := actions_coherent ⟨rfl, Nat.le_refl _⟩ actions
  refine ⟨⟨h.filtered, ?_, fun i => ?_, fun hblank => ?_, ?_⟩,
    ⟨h.length_results, h.inRange, h.selectedItem, h.selectedItem_isSome⟩,
    fun action => ⟨selected_of_editsQuery, value_of_not_editsQuery⟩,
    fun item => handleKey_enter, fun hnone => ?_⟩
  · rw [h.filtered]
    exact PaletteItem.filter_ascending
  · rw [h.filtered]
    exact PaletteItem.mem_filter_iff
  · rw [h.filtered, PaletteItem.filter_of_blank hblank]
  · rw [h.results, PaletteItem.map_fst_matched]
  · apply handleKey_enter_of_none
    rw [h.selectedItem, hnone]
    rfl

end Palette

end FunctionConsole
