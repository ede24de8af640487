import FunctionConsole.Proofs.Invariant

/-!
# Cursors

A buffer of many lines counts its cursor in rows and columns, and a row or column that does not
exist would make typing go astray: characters would be dropped, or appended where nobody sees them.
This file shows that the cursor always stands in a line of the buffer, at most behind its last
character (`TextArea.Sound`). Every key keeps this, line breaks and joins of lines included
(`TextArea.handleKey_sound`), so that it holds of the editor and of the request on every screen that
is ever shown (`Screen.sound_invariant`).
-/

namespace FunctionConsole

open Console (Input start)

namespace TextArea

/-- The cursor stands in a line of the buffer, at most behind its last character. -/
structure Sound (a : TextArea) : Prop where
  row : a.row < a.lines.length
  col : a.col ≤ a.lineLength a.row

-- ==================================================== lines

/-- The cursor stands at the start of a text that was put in as a whole. -/
theorem ofString_sound (s : String) : (ofString s).Sound where
  row := List.length_pos_iff.mpr (Text.splitOnChar_ne_nil _ _)
  col := Nat.zero_le _

section

variable {a : TextArea}

/-- The line that a change of one line leaves there. -/
theorem line_modify (h : a.row < a.lines.length) (f : List Char → List Char) (col : Nat) :
    TextArea.line ⟨a.lines.modify a.row f, a.row, col⟩ a.row = f (a.line a.row) := by
  simp [line, List.getElem?_modify_eq, List.getElem?_eq_getElem h]

/-- Where two lines are joined, the joined line stands in place of the first. -/
theorem line_joinAt {row : Nat} (h : row < a.lines.length) (r col : Nat) :
    TextArea.line ⟨a.joinAt row, r, col⟩ row = a.line row ++ a.line (row + 1) := by
  have htake : (a.lines.take row).length = row := by
    rw [List.length_take]
    omega
  simp [line, joinAt, htake]

theorem length_joinAt {row : Nat} (h : row + 1 < a.lines.length) :
    (a.joinAt row).length + 1 = a.lines.length := by
  unfold joinAt
  simp only [List.length_append, List.length_take, List.length_cons, List.length_drop]
  omega

-- ==================================================== keys

theorem insertChar_sound (h : a.Sound) (c : Char) : (a.insertChar c).Sound := by
  have hcol := h.col
  refine ⟨?_, ?_⟩
  · simpa [insertChar] using h.row
  · unfold lineLength insertChar at *
    dsimp only
    rw [line_modify h.row, List.length_append, List.length_cons, List.length_take, List.length_drop]
    omega

theorem insertNewline_sound (h : a.Sound) : a.insertNewline.Sound := by
  have hrow := h.row
  refine ⟨?_, Nat.zero_le _⟩
  unfold insertNewline
  simp only [List.length_append, List.length_take, List.length_cons, List.length_drop]
  omega

theorem insertAny_sound (h : a.Sound) (c : Char) : (a.insertAny c).Sound := by
  unfold insertAny
  split
  · exact insertNewline_sound h
  · exact insertChar_sound h c

theorem insertString_sound (h : a.Sound) (s : String) : (a.insertString s).Sound := by
  have hall (cs : List Char) (a : TextArea) (h : a.Sound) : (cs.foldl insertAny a).Sound := by
    induction cs generalizing a with
    | nil => exact h
    | cons c rest ih => exact ih _ (insertAny_sound h c)
  exact hall s.toList a h

/-- Removing a character of the cursor's line, before or after the cursor. -/
theorem eraseChar_sound (h : a.Sound) {col col' : Nat} (hcol : col < a.lineLength a.row)
    (hcol' : col' ≤ a.lineLength a.row - 1) :
    TextArea.Sound { a.eraseChar col with col := col' } := by
  refine ⟨?_, ?_⟩
  · simpa [eraseChar] using h.row
  · unfold lineLength eraseChar at *
    dsimp only
    rw [line_modify h.row, List.length_eraseIdx_of_lt hcol]
    exact hcol'

/-- Joining a line with the next one, with the cursor somewhere in the first. -/
theorem joinAt_sound {row col : Nat} (hrow : row + 1 < a.lines.length)
    (hcol : col ≤ a.lineLength row) : TextArea.Sound ⟨a.joinAt row, row, col⟩ := by
  have hlength := length_joinAt hrow
  refine ⟨show row < (a.joinAt row).length by omega, ?_⟩
  unfold lineLength at *
  dsimp only
  rw [line_joinAt (by omega), List.length_append]
  omega

theorem backspace_sound (h : a.Sound) : a.backspace.1.Sound := by
  have hrow := h.row
  have hcol := h.col
  unfold backspace
  split
  · next col heq =>
      rw [heq] at hcol
      exact eraseChar_sound h (by omega) (by omega)
  · exact h
  · next row _ heq =>
      rw [heq] at hrow
      exact joinAt_sound hrow (Nat.le_refl _)

theorem delete_sound (h : a.Sound) : a.delete.1.Sound := by
  unfold delete
  split
  · next hcol => exact eraseChar_sound h hcol (by omega)
  · split
    · next hrow => exact joinAt_sound hrow h.col
    · exact h

theorem left_sound (h : a.Sound) : a.left.Sound := by
  have hrow := h.row
  have hcol := h.col
  unfold left
  split
  · next col heq => exact ⟨hrow, Nat.le_trans (Nat.le_succ col) (heq ▸ hcol)⟩
  · next row _ heq => exact ⟨Nat.lt_of_succ_lt (heq ▸ hrow), Nat.le_refl _⟩
  · exact h

theorem right_sound (h : a.Sound) : a.right.Sound := by
  unfold right
  split
  · next hcol => exact ⟨h.row, hcol⟩
  · split
    · next hrow => exact ⟨hrow, Nat.zero_le _⟩
    · exact h

/-- Going to a row takes the cursor no further than the row reaches. -/
theorem toRow_sound {row : Nat} (hrow : row < a.lines.length) : (a.toRow row).Sound :=
  ⟨hrow, Nat.min_le_right _ _⟩

/-- No key takes the cursor out of the text. -/
theorem handleKey_sound (h : a.Sound) (key : Key) : (a.handleKey key).1.Sound := by
  have hrow := h.row
  cases key with
  | char c => exact insertChar_sound h c
  | enter => exact insertNewline_sound h
  | backspace => exact backspace_sound h
  | delete => exact delete_sound h
  | left => exact left_sound h
  | right => exact right_sound h
  | up | pageUp => exact toRow_sound (Nat.lt_of_le_of_lt (Nat.sub_le _ _) hrow)
  | down | pageDown => exact toRow_sound (by omega)
  | home => exact ⟨hrow, Nat.zero_le _⟩
  | toEnd => exact ⟨hrow, Nat.le_refl _⟩
  | ctrl _ | esc | tab | backTab | f _ => exact h

end

end TextArea

-- ==================================================== screens

theorem CodeScreen.handleKey_sound {s : CodeScreen} (h : s.editor.Sound) (key : Key) :
    ∀ p ∈ s.handleKey key, p.1.editor.Sound := by
  have hsave : s.save.1.editor.Sound := by
    unfold save
    split
    · exact h
    · split <;> exact h
  have hediting : ∀ p ∈ s.editingKey key, p.1.editor.Sound := by
    unfold editingKey
    split
    · simpa using h
    · simpa using TextArea.insertString_sound h indent
    · dsimp only
      split
      · simpa using TextArea.handleKey_sound h key
      · simp
  have hreading : ∀ p ∈ s.readingKey key, p.1.editor.Sound := by
    unfold readingKey
    split
    case h_1 | h_2 | h_3 => split <;> simp [h]
    case h_4 | h_5 | h_6 | h_7 => simpa using h
    case h_14 => simp
    -- the keys that move in the code
    all_goals simpa using TextArea.handleKey_sound h _
  unfold handleKey
  split
  · simpa using hsave
  · split
    · exact hediting
    · exact hreading

/-- A new copy of the function leaves the text as it is, or replaces it as a whole. -/
theorem CodeScreen.handleResponse_sound {s : CodeScreen} (h : s.editor.Sound) (r : Response) :
    (s.handleResponse r).1.editor.Sound := by
  unfold handleResponse
  split
  · unfold receive
    dsimp only
    split
    · exact TextArea.ofString_sound _
    · exact h
  all_goals exact h

/-- The buffers of a request. -/
def TestScreen.Sound (s : TestScreen) : Prop := s.headers.Sound ∧ s.body.Sound

theorem TestScreen.handleKey_sound {s : TestScreen} (h : s.Sound) (key : Key) :
    ∀ p ∈ s.handleKey key, p.1.Sound := by
  have htaken {s' : TestScreen} {e : Effects} (h' : s'.Sound) : ∀ p ∈ some (s', e), p.1.Sound := by
    intro p hp
    cases hp
    exact h'
  have hsend : s.send.1.Sound := by
    unfold send
    split
    · exact h
    · split <;> exact h
  have hfocused : ∀ p ∈ s.focusedKey key, p.1.Sound := by
    unfold focusedKey
    dsimp only
    split
    case h_1 =>
        split
        case h_5 => simp
        all_goals exact htaken h
    case h_5 =>
        split
        · exact htaken hsend
        · simp
    -- a buffer takes the key, or leaves it
    all_goals split
    case h_2.isTrue => exact htaken h
    case h_3.isTrue => exact htaken ⟨TextArea.handleKey_sound h.1 key, h.2⟩
    case h_4.isTrue => exact htaken ⟨h.1, TextArea.handleKey_sound h.2 key⟩
    all_goals simp
  unfold handleKey
  split
  case h_1 => exact htaken hsend
  case h_5 => exact hfocused
  all_goals exact htaken h

theorem TestScreen.handleResponse_sound {s : TestScreen} (h : s.Sound) (r : Response) :
    (s.handleResponse r).1.Sound := by
  unfold handleResponse
  split
  case h_3 => split <;> exact h
  all_goals exact h

namespace Screen

/-- The cursors of all buffers of many lines stand in their texts. -/
def Sound : Screen → Prop
  | .code s => s.editor.Sound
  | .test s => s.Sound
  | _ => True

theorem sound_invariant : Screen.Invariant Screen.Sound where
  fresh ctx route := by
    cases route with
    | code id => exact ⟨Nat.zero_lt_one, Nat.le_refl _⟩
    | test id => exact ⟨TextArea.ofString_sound _, Nat.zero_lt_one, Nat.le_refl _⟩
    | _ => trivial
  login _ := trivial
  submitted _ _ := trivial
  key screen key h p hp := by
    cases screen <;> obtain ⟨q, hq, rfl⟩ := Option.map_eq_some_iff.mp hp
    case code s => exact CodeScreen.handleKey_sound h key q hq
    case test s => exact TestScreen.handleKey_sound h key q hq
    all_goals trivial
  response screen r h := by
    cases screen with
    | code s => exact CodeScreen.handleResponse_sound h r
    | test s => exact TestScreen.handleResponse_sound h r
    | _ => trivial

end Screen

end FunctionConsole
