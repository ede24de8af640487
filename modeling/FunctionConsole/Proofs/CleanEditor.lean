import FunctionConsole.Editor.EnvEditor
import FunctionConsole.Proofs.RoundTrip

/-!
# The clean variable editor

The editor of variables works on a copy of what the server has, and its rows remember how they stand
to that copy. `EnvEditor.hasChanges` reads it off these marks: only then is there something to save,
and only without it does a new copy replace the rows. So an editor without changes had better show
what the server has. `clean_editor_shows_copy` says that it does, after any actions of a user among
which no removed row is restored with another text than its variable has.

The rows of the variables come first, in their order, and behind them are the added ones, which no
action mixes (`TableOf`). A row of the first kind that is marked unchanged has the text of its
variable; an editor without changes has no rows of the second kind.
-/

namespace FunctionConsole

theorem TextInput.isEmpty_eq (t : TextInput) : t.isEmpty = decide (t.value = "") := by
  rw [isEmpty, value]
  cases t.chars with
  | nil => rfl
  | cons c cs => simp

namespace EnvEditor

/-- What a user does in the editor, other than to save it. -/
inductive Action where
  | add
  | toggleRemove (i : Nat)
  | selectNext
  | selectPrevious
  | toggleColumn
  | key (k : Key)
  deriving DecidableEq, Repr

/-- The editor after an action. -/
def Action.apply (e : EnvEditor) : Action → EnvEditor
  | .add => e.add
  | .toggleRemove i => e.toggleRemove i
  | .selectNext => e.selectNext
  | .selectPrevious => e.selectPrevious
  | .toggleColumn => e.toggleColumn
  | .key k => (e.editSelected k).1

/-- A removed row that the action restores has the text of its variable. -/
def Action.RestoresCopy (vars : EnvVars) (e : EnvEditor) : Action → Prop
  | .toggleRemove i =>
    ∀ r, e.rows[i]? = some r → r.state = .removed → vars.entries[i]? = some r.entry
  | _ => True

/-- No action restores a removed row whose text was edited. -/
def RestoresCopies (vars : EnvVars) : EnvEditor → List Action → Prop
  | _, [] => True
  | e, action :: rest => action.RestoresCopy vars e ∧ RestoresCopies vars (action.apply e) rest

-- ==================================================== the rows of a copy

/-- The rows of an editor of some variables: one for each variable, and added ones behind them. -/
structure TableOf (vars : EnvVars) (rows : List EnvRow) : Prop where
  own : ∀ (i : Nat) (v : String × String), vars.entries[i]? = some v →
    ∃ r : EnvRow, rows[i]? = some r ∧ r.state ≠ .added ∧ (r.state = .unchanged → r.entry = v)
  behind : ∀ (i : Nat) (r : EnvRow), vars.entries.length ≤ i → rows[i]? = some r →
    r.state = .added

theorem entry_ofEntry (v : String × String) : (EnvRow.ofEntry v).entry = v := by
  simp [EnvRow.ofEntry, EnvRow.entry, TextInput.value, TextInput.ofString, TextInput.setValue]

theorem ofVars_table (vars : EnvVars) : TableOf vars (ofVars vars).rows where
  own i v hv := by
    refine ⟨EnvRow.ofEntry v, ?_, nofun, fun _ => entry_ofEntry v⟩
    rw [ofVars, List.getElem?_map, hv]
    rfl
  behind i r hi hr := by
    have hlength : (vars.entries.map EnvRow.ofEntry).length ≤ i := by
      rw [List.length_map]
      exact hi
    rw [ofVars, List.getElem?_eq_none hlength] at hr
    cases hr

section

variable {vars : EnvVars} {rows : List EnvRow} (h : TableOf vars rows)
include h

/-- A row of a variable is not an added one, and the other way round. -/
theorem TableOf.added_iff {i : Nat} {r : EnvRow} (hr : rows[i]? = some r) :
    r.state = .added ↔ vars.entries.length ≤ i := by
  constructor
  · intro hadded
    apply Nat.le_of_not_lt
    intro hlt
    obtain ⟨r', hr', hown, -⟩ := h.own i _ (List.getElem?_eq_getElem hlt)
    obtain rfl := Option.some.inj (hr.symm.trans hr')
    exact hown hadded
  · intro hi
    exact h.behind i r hi hr

/-- A row may change as long as it stays of its kind, and is unchanged only with its variable's
text. -/
theorem TableOf.set {i : Nat} {r r' : EnvRow} (hr : rows[i]? = some r)
    (hkind : r'.state = .added ↔ r.state = .added)
    (htext : r'.state = .unchanged → vars.entries[i]? = some r'.entry) :
    TableOf vars (rows.set i r') := by
  have hbound : i < rows.length := (List.getElem?_eq_some_iff.mp hr).1
  constructor
  · intro j v hv
    by_cases hj : i = j
    · subst hj
      obtain ⟨own, hown, hkept, -⟩ := h.own i v hv
      obtain rfl := Option.some.inj (hr.symm.trans hown)
      refine ⟨r', List.getElem?_set_self hbound, fun hadded => hkept (hkind.mp hadded), ?_⟩
      intro hunchanged
      exact Option.some.inj ((htext hunchanged).symm.trans hv)
    · rw [List.getElem?_set_ne hj]
      exact h.own j v hv
  · intro j s hj hs
    by_cases hij : i = j
    · subst hij
      rw [List.getElem?_set_self hbound] at hs
      obtain rfl := Option.some.inj hs
      exact hkind.mpr (h.behind i r hj hr)
    · rw [List.getElem?_set_ne hij] at hs
      exact h.behind j s hj hs

theorem TableOf.entry_of_unchanged {i : Nat} {r : EnvRow} (hr : rows[i]? = some r)
    (hunchanged : r.state = .unchanged) : vars.entries[i]? = some r.entry := by
  have hi : i < vars.entries.length := by
    apply Nat.lt_of_not_le
    intro hle
    rw [h.behind i r hle hr] at hunchanged
    cases hunchanged
  obtain ⟨r', hr', -, htext⟩ := h.own i _ (List.getElem?_eq_getElem hi)
  obtain rfl := Option.some.inj (hr.symm.trans hr')
  rw [List.getElem?_eq_getElem hi, htext hunchanged]

/-- An edit marks an unchanged row as modified when it changes the text. -/
theorem TableOf.edit {i : Nat} {r r' : EnvRow} {changed : Bool} (hr : rows[i]? = some r)
    (hstate : r'.state = if changed && r.state = .unchanged then .modified else r.state)
    (htext : changed = false → r'.entry = r.entry) : TableOf vars (rows.set i r') := by
  cases changed with
  | false =>
      have hsame : r'.state = r.state := hstate
      refine h.set hr (by rw [hsame]) ?_
      intro hunchanged
      rw [htext rfl]
      exact h.entry_of_unchanged hr (hsame ▸ hunchanged)
  | true =>
      by_cases hunchanged : r.state = .unchanged
      · rw [hunchanged] at hstate
        have hmodified : r'.state = .modified := hstate
        exact h.set hr (by rw [hmodified, hunchanged]; simp) (by rw [hmodified]; nofun)
      · have hsame : r'.state = r.state := by
          rw [hstate, if_neg (by simpa using hunchanged)]
        exact h.set hr (by rw [hsame]) fun h' => absurd (hsame ▸ h') hunchanged

theorem TableOf.concat : TableOf vars (rows ++ [.blank]) where
  own i v hv := by
    obtain ⟨r, hr, hown⟩ := h.own i v hv
    have hbound : i < rows.length := (List.getElem?_eq_some_iff.mp hr).1
    exact ⟨r, by rw [List.getElem?_append_left hbound, hr], hown⟩
  behind i r hi hr := by
    by_cases hbound : i < rows.length
    · rw [List.getElem?_append_left hbound] at hr
      exact h.behind i r hi hr
    · rw [List.getElem?_append_right (Nat.le_of_not_lt hbound)] at hr
      obtain rfl := List.mem_singleton.mp (List.mem_of_getElem? hr)
      rfl

/-- Only rows behind those of the variables are dropped. -/
theorem TableOf.eraseIdx {i : Nat} (hi : vars.entries.length ≤ i) :
    TableOf vars (rows.eraseIdx i) where
  own j v hv := by
    have hj : j < vars.entries.length := (List.getElem?_eq_some_iff.mp hv).1
    rw [List.getElem?_eraseIdx_of_lt (by omega)]
    exact h.own j v hv
  behind j r hj hr := by
    by_cases hlt : j < i
    · rw [List.getElem?_eraseIdx_of_lt hlt] at hr
      exact h.behind j r hj hr
    · rw [List.getElem?_eraseIdx_of_ge (Nat.le_of_not_lt hlt)] at hr
      exact h.behind (j + 1) r (Nat.le_succ_of_le hj) hr

/-- With every row unchanged, the rows are the variables. -/
theorem TableOf.entries_of_unchanged (hclean : ∀ r ∈ rows, r.state = .unchanged) :
    rows.map EnvRow.entry = vars.entries := by
  apply List.ext_getElem?
  intro i
  rw [List.getElem?_map]
  by_cases hi : i < vars.entries.length
  · obtain ⟨r, hr, -, htext⟩ := h.own i _ (List.getElem?_eq_getElem hi)
    rw [hr, List.getElem?_eq_getElem hi, ← htext (hclean r (List.mem_of_getElem? hr))]
    rfl
  · cases hr : rows[i]? with
    | none => rw [List.getElem?_eq_none (Nat.le_of_not_lt hi)]; rfl
    | some r =>
        have hadded := h.behind i r (Nat.le_of_not_lt hi) hr
        rw [hclean r (List.mem_of_getElem? hr)] at hadded
        cases hadded

end

-- ==================================================== actions

section

variable {vars : EnvVars} {e : EnvEditor} (h : TableOf vars e.rows)
include h

theorem toggleRemove_table {i : Nat}
    (hrestored : ∀ r, e.rows[i]? = some r → r.state = .removed →
      vars.entries[i]? = some r.entry) : TableOf vars (e.toggleRemove i).rows := by
  unfold toggleRemove
  cases hr : e.rows[i]? with
  | none => exact h
  | some r =>
      have hadded := h.added_iff hr
      have hcopy := hrestored r hr
      dsimp only
      cases hstate : r.state with
      | added => exact h.eraseIdx (hadded.mp hstate)
      | removed => exact h.set hr (by rw [hstate]; simp) fun _ => hcopy hstate
      | unchanged | modified => exact h.set hr (by rw [hstate]; simp) nofun

/-- Keys that change a text leave a mark on the row, and the others leave the text. -/
theorem editSelected_table (key : Key) : TableOf vars (e.editSelected key).1.rows := by
  unfold editSelected
  cases hr : e.rows[e.selected]? with
  | none => exact h
  | some r =>
      dsimp only
      by_cases hremoved : r.state = .removed
      · rw [if_pos hremoved]
        exact h
      · rw [if_neg hremoved]
        cases e.column with
        | key =>
            refine h.edit hr rfl fun hsame => ?_
            show (String.ofList _, r.value.value) = _
            rw [TextInput.chars_handleKey hsame]
            rfl
        | value =>
            refine h.edit hr rfl fun hsame => ?_
            show (r.key.value, String.ofList _) = _
            rw [TextInput.chars_handleKey hsame]
            rfl

theorem apply_table {action : Action} (haction : action.RestoresCopy vars e) :
    TableOf vars (action.apply e).rows := by
  cases action with
  | add => exact h.concat
  | toggleRemove i => exact toggleRemove_table h haction
  | key k => exact editSelected_table h k
  | selectNext =>
      rw [Action.apply, selectNext]
      split <;> exact h
  | selectPrevious | toggleColumn => exact h

theorem actions_table {actions : List Action} (hactions : RestoresCopies vars e actions) :
    TableOf vars (actions.foldl Action.apply e).rows := by
  induction actions generalizing e with
  | nil => exact h
  | cons action actions ih => exact ih (apply_table h hactions.1) hactions.2

end

-- ==================================================== what is saved

/-- An unchanged row is saved unless both of its texts are empty. -/
theorem isKept_of_unchanged {r : EnvRow} (h : r.state = .unchanged) :
    r.isKept = decide (r.entry ≠ ("", "")) := by
  rw [EnvRow.isKept, h, TextInput.isEmpty_eq, TextInput.isEmpty_eq, EnvRow.entry]
  by_cases hkey : r.key.value = "" <;> by_cases hvalue : r.value.value = "" <;> simp [hkey, hvalue]

/-- Without changes the entries of the rows are saved, but for an empty name with an empty value. -/
theorem collect_of_unchanged {e : EnvEditor} {vars : EnvVars}
    (hclean : ∀ r ∈ e.rows, r.state = .unchanged) (hrows : e.rows.map EnvRow.entry = vars.entries) :
    e.collect.entries = vars.entries.filter (· ≠ ("", "")) := by
  have hkept : (e.rows.filter EnvRow.isKept).map EnvRow.entry =
      vars.entries.filter (· ≠ ("", "")) := by
    rw [← hrows, List.filter_map]
    refine congrArg (List.map EnvRow.entry) (List.filter_congr fun r hr => ?_)
    exact isKept_of_unchanged (hclean r hr)
  rw [collect, hkept]
  exact congrArg EnvVars.entries (EnvVars.ofList_entries ⟨_, vars.ascending.filter _⟩)

/-- Whatever a user does in an editor of some variables, as long as no removed row is restored with
another text than its variable: if the editor then has no changes, its rows are the variables, in
their order. They are what would be saved, too, except that a variable with no name and no value is
never sent. -/
theorem clean_editor_shows_copy (vars : EnvVars) (actions : List Action)
    (hrestored : RestoresCopies vars (ofVars vars) actions)
    (hclean : (actions.foldl Action.apply (ofVars vars)).hasChanges = false) :
    let e := actions.foldl Action.apply (ofVars vars)
    e.rows.map EnvRow.entry = vars.entries ∧
      e.collect.entries = vars.entries.filter (· ≠ ("", "")) ∧
      (("", "") ∉ vars.entries → e.collect = vars) := by
  intro e
  have htable : TableOf vars e.rows := actions_table (ofVars_table vars) hrestored
  have hunchanged : ∀ r ∈ e.rows, r.state = .unchanged := by
    have hnone : e.hasChanges = false := hclean
    simpa [hasChanges] using hnone
  have hrows := htable.entries_of_unchanged hunchanged
  have hcollect := collect_of_unchanged hunchanged hrows
  refine ⟨hrows, hcollect, fun hnamed => ?_⟩
  have hentries : e.collect.entries = vars.entries := by
    rw [hcollect, List.filter_eq_self]
    intro v hv
    simpa using ne_of_mem_of_not_mem hv hnamed
  obtain ⟨entries, hascending⟩ := vars
  generalize e.collect = collected at hentries
  subst hentries
  rfl

/-- A row is added, typed into and dropped again, another is removed and restored. -/
theorem clean_after_detours :
    let vars : EnvVars := .ofList [("A", "1"), ("B", "2")]
    let actions : List Action :=
      [.add, .key (.char 'x'), .toggleRemove 2, .toggleRemove 0, .toggleRemove 0, .key .left]
    let e := actions.foldl Action.apply (ofVars vars)
    RestoresCopies vars (ofVars vars) actions ∧ e.hasChanges = false ∧ e.collect = vars := by
  intro vars actions e
  have hrestored : RestoresCopies vars (ofVars vars) actions := by
    refine ⟨trivial, trivial, ?_, ?_, ?_, trivial, trivial⟩
    · rintro r ⟨⟩ hstate
      cases hstate
    · rintro r ⟨⟩ hstate
      cases hstate
    · rintro r ⟨⟩ -
      rfl
  have hclean : e.hasChanges = false := by decide +kernel
  obtain ⟨-, -, hcollect⟩ := clean_editor_shows_copy vars actions hrestored hclean
  exact ⟨hrestored, hclean, hcollect (by decide +kernel)⟩

/-- Two editors without changes that would not save what the server has: one of a variable with no
name and no value, one in which a row was edited, removed and restored. -/
theorem clean_editors_of_other_text :
    let unnamed : EnvVars := .ofList [("", "")]
    let vars : EnvVars := .ofList [("A", "1")]
    let actions : List Action := [.key (.char 'x'), .toggleRemove 0, .toggleRemove 0]
    let e := actions.foldl Action.apply (ofVars vars)
    (ofVars unnamed).hasChanges = false ∧ (ofVars unnamed).collect ≠ unnamed ∧
      e.hasChanges = false ∧ e.collect ≠ vars := by
  decide +kernel

end EnvEditor

end FunctionConsole
