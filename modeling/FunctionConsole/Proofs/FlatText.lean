import FunctionConsole.Proofs.InRange
import FunctionConsole.Proofs.Typing

/-!
# Buffers as flat texts

A buffer keeps its text in lines and its cursor in a row and a column. To the user it is one text
with one cursor (`FlatText`): a line break is a character like others, Backspace takes out the
character before the cursor whether that is a letter or a line break, and Left goes one character
back, also from the start of a line. `TextArea.flat` reads a buffer so, and `buffers_are_flat_texts`
says that in every buffer that edits can lead to, each operation does to the flat text what its name
says (`Flattens`).

The bridge is `flat_eq`: the flat text of a buffer is what stands before its cursor and what stands
after. An operation is then followed through these two alone: typing adds to the end of the first,
Backspace takes from there, Delete takes from the front of the second.
-/

namespace FunctionConsole

/-- A text with one cursor, which counts the characters before it. -/
structure FlatText where
  chars : List Char
  offset : Nat
  deriving DecidableEq, Repr

namespace FlatText

/-- Puts a text in at the cursor, and the cursor behind it. -/
def insert (t : FlatText) (cs : List Char) : FlatText :=
  ⟨t.chars.take t.offset ++ cs ++ t.chars.drop t.offset, t.offset + cs.length⟩

/-- Takes out the character before the cursor. -/
def eraseBefore (t : FlatText) : FlatText := ⟨t.chars.eraseIdx (t.offset - 1), t.offset - 1⟩

/-- Takes out the character after the cursor. -/
def eraseAfter (t : FlatText) : FlatText := { t with chars := t.chars.eraseIdx t.offset }

/-- One character back, if there is one. -/
def left (t : FlatText) : FlatText := { t with offset := t.offset - 1 }

/-- One character on, if there is one. -/
def right (t : FlatText) : FlatText := { t with offset := min (t.offset + 1) t.chars.length }

/-- The text that is cut in two by its cursor. -/
def cut (before after : List Char) : FlatText := ⟨before ++ after, before.length⟩

section

variable (before after : List Char)

theorem insert_cut (cs : List Char) :
    (cut before after).insert cs = cut (before ++ cs) after := by
  simp [insert, cut]

theorem eraseBefore_cut (c : Char) :
    (cut (before ++ [c]) after).eraseBefore = cut before after := by
  have hindex : (before ++ [c]).length - 1 = before.length := by simp
  rw [eraseBefore, cut, hindex, List.append_assoc,
    List.eraseIdx_append_of_length_le (Nat.le_refl _), Nat.sub_self]
  rfl

theorem eraseAfter_cut (c : Char) :
    (cut before (c :: after)).eraseAfter = cut before after := by
  rw [eraseAfter, cut, List.eraseIdx_append_of_length_le (Nat.le_refl _), Nat.sub_self]
  rfl

end

end FlatText

open FlatText (cut)

namespace TextArea

-- ==================================================== lines of a text

theorem joinLines_splitOnChar (cs : List Char) :
    joinLines (Text.splitOnChar (· == '\n') cs) = cs := by
  induction cs with
  | nil => rfl
  | cons c cs ih =>
      rw [Text.splitOnChar]
      by_cases hc : (c == '\n') = true
      · rw [if_pos hc, joinLines_cons [] (Text.splitOnChar_ne_nil _ cs), ih]
        rw [beq_iff_eq] at hc
        rw [hc]
        rfl
      · rw [if_neg hc]
        obtain ⟨first, more, hcut⟩ :=
          List.exists_cons_of_ne_nil (Text.splitOnChar_ne_nil (· == '\n') cs)
        rw [hcut] at ih ⊢
        rw [← ih]
        cases more <;> rfl

/-- A buffer has the text that it was made from. -/
theorem text_ofString (s : String) : (ofString s).text = s := by
  rw [text, ofString, joinLines_splitOnChar, String.ofList_toList]

theorem joinLines_concat {lines : List (List Char)} (h : lines ≠ []) (l : List Char) :
    joinLines (lines ++ [l]) = joinLines lines ++ '\n' :: l := by
  induction lines with
  | nil => exact absurd rfl h
  | cons m lines ih =>
      cases lines with
      | nil => rfl
      | cons n lines =>
          rw [List.cons_append, joinLines_cons m (by simp), ih (by simp),
            joinLines_cons m (by simp), List.append_assoc, List.cons_append]

-- ==================================================== the flat text of a buffer

/-- How many characters stand before a row and column; a line above counts with its line break. -/
def offsetIn : List (List Char) → (row col : Nat) → Nat
  | l :: lines, row + 1, col => l.length + 1 + offsetIn lines row col
  | _, _, col => col

/-- A buffer as a flat text. -/
def flat (a : TextArea) : FlatText := ⟨a.text.toList, offsetIn a.lines a.row a.col⟩

theorem offsetIn_succ (lines : List (List Char)) (row col : Nat) :
    offsetIn lines row (col + 1) = offsetIn lines row col + 1 := by
  induction lines generalizing row with
  | nil => rfl
  | cons l lines ih =>
      cases row with
      | zero => rfl
      | succ row => rw [offsetIn, offsetIn, ih, Nat.add_assoc (l.length + 1)]

/-- The start of a line comes right behind the end of the one above it. -/
theorem offsetIn_start {lines : List (List Char)} {row : Nat} (h : row < lines.length) :
    offsetIn lines (row + 1) 0 = offsetIn lines row (lines[row]?.getD []).length + 1 := by
  induction lines generalizing row with
  | nil => exact absurd h (Nat.not_lt_zero row)
  | cons l lines ih =>
      cases row with
      | zero =>
          cases lines <;> rfl
      | succ row =>
          rw [offsetIn, ih (Nat.lt_of_succ_lt_succ h), offsetIn, List.getElem?_cons_succ,
            Nat.add_assoc (l.length + 1)]

theorem length_joinLines_take {lines : List (List Char)} {row col : Nat} (hrow : row < lines.length)
    (hcol : col ≤ (lines[row]?.getD []).length) :
    (joinLines (lines.take row ++ [(lines[row]?.getD []).take col])).length =
      offsetIn lines row col := by
  induction lines generalizing row with
  | nil => exact absurd hrow (Nat.not_lt_zero row)
  | cons l lines ih =>
      cases row with
      | zero =>
          show (l.take col).length = col
          rw [List.length_take]
          exact Nat.min_eq_left hcol
      | succ row =>
          rw [List.getElem?_cons_succ] at hcol ⊢
          rw [List.take_succ_cons, List.cons_append, joinLines_cons l (by simp), List.length_append,
            List.length_cons, ih (Nat.lt_of_succ_lt_succ hrow) hcol, offsetIn]
          omega

section

variable {a : TextArea}

/-- A buffer is what stands before its cursor and what stands after it. -/
theorem flat_eq (h : a.Sound) : a.flat = cut a.beforeCursor a.afterCursor := by
  have hoffset : a.beforeCursor.length = offsetIn a.lines a.row a.col :=
    length_joinLines_take h.row h.col
  rw [flat, cut, hoffset, text, String.toList_ofList, joinLines_eq h]

/-- What stands before and after the cursor, in a buffer whose lines are known around it. -/
theorem cut_of_lines {above below : List (List Char)} {l : List Char}
    (hlines : a.lines = above ++ l :: below) (hrow : a.row = above.length) :
    a.beforeCursor = joinLines (above ++ [l.take a.col]) ∧
      a.afterCursor = joinLines (l.drop a.col :: below) := by
  have hline : a.line a.row = l := by
    rw [line, hlines, hrow, List.getElem?_append_right (Nat.le_refl _), Nat.sub_self]
    rfl
  have habove : a.lines.take a.row = above := by
    rw [hlines, hrow]
    exact List.take_left' rfl
  have hbelow : a.lines.drop (a.row + 1) = below := by
    rw [hlines, hrow, List.append_cons]
    exact List.drop_left' (by simp)
  rw [beforeCursor, afterCursor, hline, habove, hbelow]
  exact ⟨rfl, rfl⟩

/-- A character that is taken off the end of a cut line is taken off the end of the text. -/
theorem joinLines_take_succ (above : List (List Char)) {l : List Char} {col : Nat}
    (h : col < l.length) :
    joinLines (above ++ [l.take (col + 1)]) = joinLines (above ++ [l.take col]) ++ [l[col]] := by
  rw [List.take_add_one, List.getElem?_eq_getElem h, joinLines_cut above []]
  rfl

theorem joinLines_drop {l : List Char} {col : Nat} (h : col < l.length)
    (below : List (List Char)) :
    joinLines (l.drop col :: below) = l[col] :: joinLines (l.drop (col + 1) :: below) := by
  rw [List.drop_eq_getElem_cons h]
  cases below <;> rfl

theorem length_take_lines (h : a.Sound) : (a.lines.take a.row).length = a.row := by
  rw [List.length_take]
  exact Nat.min_eq_left (Nat.le_of_lt h.row)

-- ==================================================== insertions

theorem insertNewline_cut (h : a.Sound) :
    a.insertNewline.beforeCursor = a.beforeCursor ++ ['\n'] ∧
      a.insertNewline.afterCursor = a.afterCursor := by
  have hlines : a.insertNewline.lines = (a.lines.take a.row ++ [(a.line a.row).take a.col]) ++
      (a.line a.row).drop a.col :: a.lines.drop (a.row + 1) := List.append_cons _ _ _
  obtain ⟨hbefore, hafter⟩ := cut_of_lines hlines
    (show a.row + 1 = _ by rw [List.length_append, length_take_lines h]; rfl)
  refine ⟨?_, hafter⟩
  rw [hbefore, show a.insertNewline.col = 0 from rfl, List.take_zero, joinLines_concat (by simp)]
  rfl

theorem insertAny_cut (h : a.Sound) (c : Char) :
    (a.insertAny c).beforeCursor = a.beforeCursor ++ [c] ∧
      (a.insertAny c).afterCursor = a.afterCursor := by
  unfold insertAny
  split
  · next hc =>
      rw [hc]
      exact insertNewline_cut h
  · exact ⟨beforeCursor_insertChar h c, afterCursor_insertChar h c⟩

theorem insertString_cut (h : a.Sound) (s : String) :
    (a.insertString s).beforeCursor = a.beforeCursor ++ s.toList ∧
      (a.insertString s).afterCursor = a.afterCursor := by
  have hall (cs : List Char) (a : TextArea) (h : a.Sound) :
      (cs.foldl insertAny a).beforeCursor = a.beforeCursor ++ cs ∧
        (cs.foldl insertAny a).afterCursor = a.afterCursor := by
    induction cs generalizing a with
    | nil => exact ⟨(List.append_nil _).symm, rfl⟩
    | cons c cs ih =>
        obtain ⟨hbefore, hafter⟩ := ih _ (insertAny_sound h c)
        obtain ⟨hbefore', hafter'⟩ := insertAny_cut h c
        rw [hbefore', ← List.append_cons] at hbefore
        exact ⟨hbefore, hafter.trans hafter'⟩
  exact hall s.toList a h

/-- What is added before the cursor is inserted into the flat text. -/
theorem flat_insert {a' : TextArea} {cs : List Char} (h : a.Sound) (h' : a'.Sound)
    (hcut : a'.beforeCursor = a.beforeCursor ++ cs ∧ a'.afterCursor = a.afterCursor) :
    a'.flat = a.flat.insert cs := by
  rw [flat_eq h, flat_eq h', FlatText.insert_cut, hcut.1, hcut.2]

-- ==================================================== removals

theorem take_eraseIdx {l : List Char} {col : Nat} (h : col < l.length) :
    (l.eraseIdx col).take col = l.take col := by
  rw [List.eraseIdx_eq_take_drop_succ]
  exact List.take_left' (List.length_take_of_le (Nat.le_of_lt h))

theorem drop_eraseIdx {l : List Char} {col : Nat} (h : col < l.length) :
    (l.eraseIdx col).drop col = l.drop (col + 1) := by
  rw [List.eraseIdx_eq_take_drop_succ]
  exact List.drop_left' (List.length_take_of_le (Nat.le_of_lt h))

/-- What is left around a place at which a character of the cursor's line was taken out. -/
theorem eraseChar_cut (h : a.Sound) {col : Nat} (hcol : col < (a.line a.row).length) :
    let a' : TextArea := { a.eraseChar col with col }
    a'.beforeCursor = joinLines (a.lines.take a.row ++ [(a.line a.row).take col]) ∧
      a'.afterCursor = joinLines ((a.line a.row).drop (col + 1) :: a.lines.drop (a.row + 1)) := by
  intro a'
  have hlines : a'.lines =
      a.lines.take a.row ++ (a.line a.row).eraseIdx col :: a.lines.drop (a.row + 1) := by
    show (a.eraseChar col).lines = _
    rw [eraseChar, modify_line h.row, List.set_eq_take_append_cons_drop, if_pos h.row]
  obtain ⟨hbefore, hafter⟩ := cut_of_lines hlines (length_take_lines h).symm
  exact ⟨take_eraseIdx hcol ▸ hbefore, drop_eraseIdx hcol ▸ hafter⟩

/-- What is left around a cursor in the first of two lines that were joined. -/
theorem joinAt_cut {row col : Nat} (hrow : row < a.lines.length) (hcol : col = a.lineLength row) :
    let a' : TextArea := ⟨a.joinAt row, row, col⟩
    a'.beforeCursor = joinLines (a.lines.take row ++ [a.line row]) ∧
      a'.afterCursor = joinLines (a.line (row + 1) :: a.lines.drop (row + 2)) := by
  intro a'
  have htake : (a.lines.take row).length = row := by
    rw [List.length_take]
    exact Nat.min_eq_left (Nat.le_of_lt hrow)
  obtain ⟨hbefore, hafter⟩ := cut_of_lines (a := a') rfl htake.symm
  rw [hbefore, hafter, show a'.col = (a.line row).length from hcol, List.take_left, List.drop_left]
  exact ⟨rfl, rfl⟩

/-- Backspace takes a character from the end of what stands before the cursor, unless there is
none. -/
theorem backspace_cut (h : a.Sound) :
    a.beforeCursor = [] ∧ a.backspace = (a, false) ∨
      ∃ c, a.beforeCursor = a.backspace.1.beforeCursor ++ [c] ∧
        a.backspace.1.afterCursor = a.afterCursor ∧ a.backspace.2 = true := by
  have hrow := h.row
  have hcol := h.col
  obtain ⟨hbefore, hafter⟩ := cut_of_lines (lines_eq h) (length_take_lines h).symm
  unfold backspace
  split
  · next col heq =>
      rw [heq] at hcol hbefore hafter
      have hin : col < (a.line a.row).length := hcol
      obtain ⟨hbefore', hafter'⟩ := eraseChar_cut h hin
      refine .inr ⟨(a.line a.row)[col], ?_, hafter'.trans hafter.symm, rfl⟩
      rw [hbefore, joinLines_take_succ _ hin, ← hbefore']
  · next hcol0 hrow0 =>
      refine .inl ⟨?_, rfl⟩
      rw [hbefore, hcol0, hrow0]
      rfl
  · next row hcol0 heq =>
      rw [heq] at hrow
      rw [hcol0, heq] at hbefore hafter
      obtain ⟨hbefore', hafter'⟩ := joinAt_cut (Nat.lt_of_succ_lt hrow) rfl
      refine .inr ⟨'\n', ?_, hafter'.trans hafter.symm, rfl⟩
      have habove : a.lines.take (row + 1) = a.lines.take row ++ [a.line row] := by
        rw [List.take_add_one, getElem?_line (Nat.lt_of_succ_lt hrow)]
        rfl
      rw [hbefore, hbefore', List.take_zero, habove, joinLines_concat (by simp)]

/-- Delete takes a character from the front of what stands after the cursor, unless there is
none. -/
theorem delete_cut (h : a.Sound) :
    a.afterCursor = [] ∧ a.delete = (a, false) ∨
      ∃ c, a.delete.1.beforeCursor = a.beforeCursor ∧
        a.afterCursor = c :: a.delete.1.afterCursor ∧ a.delete.2 = true := by
  obtain ⟨hbefore, hafter⟩ := cut_of_lines (lines_eq h) (length_take_lines h).symm
  unfold delete
  by_cases hcol : a.col < a.lineLength a.row
  · rw [if_pos hcol]
    have hin : a.col < (a.line a.row).length := hcol
    obtain ⟨hbefore', hafter'⟩ := eraseChar_cut h hin
    refine .inr ⟨(a.line a.row)[a.col], hbefore'.trans hbefore.symm, ?_, rfl⟩
    rw [hafter, joinLines_drop hin, ← hafter']
    rfl
  · have hend : (a.line a.row).length ≤ a.col := Nat.le_of_not_lt hcol
    rw [if_neg hcol]
    rw [List.take_of_length_le hend] at hbefore
    rw [List.drop_eq_nil_of_le hend] at hafter
    by_cases hlast : a.row + 1 < a.lines.length
    · rw [if_pos hlast]
      obtain ⟨hbefore', hafter'⟩ := joinAt_cut h.row (Nat.le_antisymm h.col hend)
      refine .inr ⟨'\n', hbefore'.trans hbefore.symm, ?_, rfl⟩
      have hbelow : a.lines.drop (a.row + 1) = a.line (a.row + 1) :: a.lines.drop (a.row + 2) := by
        rw [List.drop_eq_getElem_cons hlast, line, List.getElem?_eq_getElem hlast]
        rfl
      rw [hafter, hbelow, joinLines_cons [] (by simp), ← hafter']
      rfl
    · rw [if_neg hlast]
      refine .inl ⟨?_, rfl⟩
      rw [hafter, List.drop_eq_nil_of_le (Nat.le_of_not_lt hlast)]
      rfl

theorem flat_backspace (h : a.Sound) :
    a.flat.offset = 0 ∧ a.backspace = (a, false) ∨
      0 < a.flat.offset ∧ a.backspace.2 = true ∧ a.backspace.1.flat = a.flat.eraseBefore := by
  rw [flat_eq h, flat_eq (backspace_sound h)]
  rcases backspace_cut h with ⟨hbefore, hsame⟩ | ⟨c, hbefore, hafter, htaken⟩
  · rw [hbefore]
    exact .inl ⟨rfl, hsame⟩
  · rw [hbefore, hafter, FlatText.eraseBefore_cut]
    exact .inr ⟨by simp [cut], htaken, rfl⟩

theorem flat_delete (h : a.Sound) :
    a.flat.offset = a.flat.chars.length ∧ a.delete = (a, false) ∨
      a.flat.offset < a.flat.chars.length ∧ a.delete.2 = true ∧
        a.delete.1.flat = a.flat.eraseAfter := by
  rw [flat_eq h, flat_eq (delete_sound h)]
  rcases delete_cut h with ⟨hafter, hsame⟩ | ⟨c, hbefore, hafter, htaken⟩
  · rw [hafter]
    exact .inl ⟨by simp [cut], hsame⟩
  · rw [hafter, hbefore, FlatText.eraseAfter_cut]
    exact .inr ⟨by simp [cut], htaken, rfl⟩

-- ==================================================== moves

theorem offset_le (h : a.Sound) : a.flat.offset ≤ a.flat.chars.length := by
  rw [flat_eq h, cut]
  simp

theorem flat_left (h : a.Sound) : a.left.flat = a.flat.left := by
  have hrow := h.row
  unfold left FlatText.left flat
  split
  · next col heq => rw [heq, offsetIn_succ]; rfl
  · next row hcol heq =>
      rw [heq] at hrow
      rw [hcol, heq, offsetIn_start (Nat.lt_of_succ_lt hrow)]
      rfl
  · next hcol hrow =>
      rw [hcol, hrow]
      cases a.lines <;> rfl

theorem flat_right (h : a.Sound) : a.right.flat = a.flat.right := by
  have hrow := h.row
  -- a cursor one character on stands in the text, which is what the bound of `FlatText.right` asks
  have hon {a' : TextArea} (h' : a'.Sound) (hlines : a'.lines = a.lines)
      (hoffset : a'.flat.offset = a.flat.offset + 1) : a'.flat = a.flat.right := by
    have hchars : a'.flat.chars = a.flat.chars := by rw [flat, flat, text, text, hlines]
    have hbound := offset_le h'
    rw [hoffset, hchars] at hbound
    rw [FlatText.right, Nat.min_eq_left hbound, ← hoffset, ← hchars]
  have hsound := right_sound h
  unfold right at hsound ⊢
  by_cases hcol : a.col < a.lineLength a.row
  · rw [if_pos hcol] at hsound ⊢
    exact hon hsound rfl (offsetIn_succ _ _ _)
  · rw [if_neg hcol] at hsound ⊢
    have hend : a.col = (a.line a.row).length := Nat.le_antisymm h.col (Nat.le_of_not_lt hcol)
    by_cases hlast : a.row + 1 < a.lines.length
    · rw [if_pos hlast] at hsound ⊢
      refine hon hsound rfl ?_
      show offsetIn a.lines (a.row + 1) 0 = offsetIn a.lines a.row a.col + 1
      rw [offsetIn_start hrow, hend, line]
    · rw [if_neg hlast]
      have hafter : a.afterCursor = [] := by
        rw [afterCursor, hend, List.drop_length,
          List.drop_eq_nil_of_le (Nat.le_of_not_lt hlast)]
        rfl
      rw [flat_eq h, hafter, cut, FlatText.right, List.append_nil, Nat.min_eq_right (Nat.le_succ _)]

end

-- ==================================================== unbroken lines

/-- No line of the buffer has a line break in it. -/
def Unbroken (a : TextArea) : Prop := ∀ l ∈ a.lines, '\n' ∉ l

theorem ofString_unbroken (t : String) : (ofString t).Unbroken := by
  intro l hl hbreak
  have hnot := Text.splitOnChar_pieces (· == '\n') t.toList l hl '\n' hbreak
  exact absurd hnot (by decide)

section

variable {a : TextArea}

theorem line_unbroken (h : a.Unbroken) (row : Nat) : '\n' ∉ a.line row := by
  rw [line]
  by_cases hrow : row < a.lines.length
  · rw [List.getElem?_eq_getElem hrow]
    exact h _ (List.getElem_mem hrow)
  · rw [List.getElem?_eq_none (Nat.le_of_not_lt hrow)]
    exact List.not_mem_nil

theorem insertChar_unbroken (hs : a.Sound) (h : a.Unbroken) {c : Char} (hc : c ≠ '\n') :
    (a.insertChar c).Unbroken := by
  have hline := line_unbroken h a.row
  intro l hl
  rw [insertChar, modify_line hs.row] at hl
  rcases List.mem_or_eq_of_mem_set hl with hl | rfl
  · exact h l hl
  · rw [List.mem_append, List.mem_cons]
    rintro (hfront | rfl | hback)
    · exact hline (List.mem_of_mem_take hfront)
    · exact hc rfl
    · exact hline (List.mem_of_mem_drop hback)

theorem insertNewline_unbroken (h : a.Unbroken) : a.insertNewline.Unbroken := by
  have hline := line_unbroken h a.row
  intro l hl
  rw [insertNewline, List.mem_append, List.mem_cons, List.mem_cons] at hl
  rcases hl with hl | rfl | rfl | hl
  · exact h l (List.mem_of_mem_take hl)
  · exact fun hbreak => hline (List.mem_of_mem_take hbreak)
  · exact fun hbreak => hline (List.mem_of_mem_drop hbreak)
  · exact h l (List.mem_of_mem_drop hl)

theorem insertAny_unbroken (hs : a.Sound) (h : a.Unbroken) (c : Char) :
    (a.insertAny c).Unbroken := by
  unfold insertAny
  by_cases hc : c = '\n'
  · rw [if_pos hc]
    exact insertNewline_unbroken h
  · rw [if_neg hc]
    exact insertChar_unbroken hs h hc

theorem insertString_unbroken (hs : a.Sound) (h : a.Unbroken) (s : String) :
    (a.insertString s).Unbroken := by
  have hall (cs : List Char) (a : TextArea) (hs : a.Sound) (h : a.Unbroken) :
      (cs.foldl insertAny a).Unbroken := by
    induction cs generalizing a with
    | nil => exact h
    | cons c cs ih => exact ih _ (insertAny_sound hs c) (insertAny_unbroken hs h c)
  exact hall s.toList a hs h

theorem eraseChar_unbroken (hs : a.Sound) (h : a.Unbroken) (col : Nat) :
    (a.eraseChar col).Unbroken := by
  intro l hl
  rw [eraseChar, modify_line hs.row] at hl
  rcases List.mem_or_eq_of_mem_set hl with hl | rfl
  · exact h l hl
  · exact fun hbreak => line_unbroken h a.row (List.mem_of_mem_eraseIdx hbreak)

theorem joinAt_unbroken (h : a.Unbroken) (row : Nat) : ∀ l ∈ a.joinAt row, '\n' ∉ l := by
  intro l hl
  rw [joinAt, List.mem_append, List.mem_cons] at hl
  rcases hl with hl | rfl | hl
  · exact h l (List.mem_of_mem_take hl)
  · rw [List.mem_append]
    exact not_or.mpr ⟨line_unbroken h row, line_unbroken h (row + 1)⟩
  · exact h l (List.mem_of_mem_drop hl)

theorem backspace_unbroken (hs : a.Sound) (h : a.Unbroken) : a.backspace.1.Unbroken := by
  unfold backspace
  split
  · exact eraseChar_unbroken hs h _
  · exact h
  · exact joinAt_unbroken h _

theorem delete_unbroken (hs : a.Sound) (h : a.Unbroken) : a.delete.1.Unbroken := by
  unfold delete
  by_cases hcol : a.col < a.lineLength a.row
  · rw [if_pos hcol]
    exact eraseChar_unbroken hs h _
  · rw [if_neg hcol]
    by_cases hlast : a.row + 1 < a.lines.length
    · rw [if_pos hlast]
      exact joinAt_unbroken h _
    · rw [if_neg hlast]
      exact h

theorem handleKey_backspace (a : TextArea) :
    a.handleKey .backspace = (a.backspace.1, .ofRemoval a.backspace.2) := rfl

theorem handleKey_delete (a : TextArea) :
    a.handleKey .delete = (a.delete.1, .ofRemoval a.delete.2) := rfl

/-- The keys that change a text, as far as a buffer takes them. -/
theorem lines_handleKey (key : Key) (h : ∀ c, key ≠ .char c) (henter : key ≠ .enter)
    (hbackspace : key ≠ .backspace) (hdelete : key ≠ .delete) :
    (a.handleKey key).1.lines = a.lines := by
  cases key with
  | char c => exact absurd rfl (h c)
  | enter => exact absurd rfl henter
  | backspace => exact absurd rfl hbackspace
  | delete => exact absurd rfl hdelete
  | left =>
      show a.left.lines = a.lines
      rw [left]
      split <;> rfl
  | right =>
      show a.right.lines = a.lines
      rw [right]
      split
      · rfl
      · split <;> rfl
  | _ => rfl

/-- No edit but the one that types a line break as a character leaves a break inside of a line. -/
theorem Edit.apply_unbroken (hs : a.Sound) (h : a.Unbroken) {e : Edit}
    (he : e ≠ .key (.char '\n')) : (e.apply a).Unbroken := by
  cases e with
  | key k =>
      cases k
      case char c =>
        have hc : c ≠ '\n' := by
          rintro rfl
          exact he rfl
        exact insertChar_unbroken hs h hc
      case enter => exact insertNewline_unbroken h
      case backspace => exact backspace_unbroken hs h
      case delete => exact delete_unbroken hs h
      -- the other keys leave the lines as they are
      all_goals
        intro l hl
        rw [apply, lines_handleKey _ (by simp) (by simp) (by simp) (by simp)] at hl
        exact h l hl
  | insert s => exact insertString_unbroken hs h s
  | newline => exact insertNewline_unbroken h
  | backspace => exact backspace_unbroken hs h
  | delete => exact delete_unbroken hs h

-- ==================================================== all edits

theorem edits_sound (h : a.Sound) (edits : List Edit) : (edits.foldl Edit.apply a).Sound := by
  induction edits generalizing a with
  | nil => exact h
  | cons e edits ih => exact ih (e.apply_sound h)

theorem edits_unbroken (hs : a.Sound) (h : a.Unbroken) {edits : List Edit}
    (hedits : ∀ e ∈ edits, e ≠ .key (.char '\n')) : (edits.foldl Edit.apply a).Unbroken := by
  induction edits generalizing a with
  | nil => exact h
  | cons e edits ih =>
      rw [List.forall_mem_cons] at hedits
      exact ih (e.apply_sound hs) (Edit.apply_unbroken hs h hedits.1) hedits.2

/-- Edit after edit, every place that is touched is there. -/
theorem edits_inRange (h : a.Sound) (edits : List Edit) :
    edits.foldlM Edit.checked? a = some (edits.foldl Edit.apply a) := by
  induction edits generalizing a with
  | nil => rfl
  | cons e edits ih =>
      rw [List.foldlM_cons, Edit.checked?_eq h, Option.bind_eq_bind, Option.bind_some,
        ih (e.apply_sound h)]
      rfl

end

/-- The buffer is well formed, and each of its operations does to the flat text what its name
says, without touching a place that is not there. -/
structure Flattens (a : TextArea) : Prop where
  lines : a.lines ≠ []
  unbroken : ∀ l ∈ a.lines, '\n' ∉ l
  row : a.row < a.lines.length
  col : a.col ≤ a.lineLength a.row
  offset : a.flat.offset ≤ a.flat.chars.length
  inRange : ∀ e : Edit, e.checked? a = some (e.apply a)
  keyInRange : ∀ key, a.handleKey? key = some (a.handleKey key)
  char : ∀ c, (a.handleKey (.char c)).2 = .edited ∧
    (a.handleKey (.char c)).1.flat = a.flat.insert [c]
  enter : (a.handleKey .enter).2 = .edited ∧ (a.handleKey .enter).1.flat = a.flat.insert ['\n']
  newline : a.insertNewline.flat = a.flat.insert ['\n']
  insert : ∀ s, (a.insertString s).flat = a.flat.insert s.toList
  /-- At the start of the text Backspace changes nothing and says so. -/
  backspaceStart : a.flat.offset = 0 →
    a.backspace = (a, false) ∧ a.handleKey .backspace = (a, .moved)
  backspace : 0 < a.flat.offset → a.backspace.2 = true ∧
    a.handleKey .backspace = (a.backspace.1, .edited) ∧ a.backspace.1.flat = a.flat.eraseBefore
  /-- So does Delete at the end. -/
  deleteEnd : a.flat.offset = a.flat.chars.length →
    a.delete = (a, false) ∧ a.handleKey .delete = (a, .moved)
  delete : a.flat.offset < a.flat.chars.length → a.delete.2 = true ∧
    a.handleKey .delete = (a.delete.1, .edited) ∧ a.delete.1.flat = a.flat.eraseAfter
  left : (a.handleKey .left).2 = .moved ∧ (a.handleKey .left).1.flat = a.flat.left
  right : (a.handleKey .right).2 = .moved ∧ (a.handleKey .right).1.flat = a.flat.right
  /-- Where the other moves lead is not said, but they change no text. -/
  moves : ∀ key ∈ [Key.up, .down, .pageUp, .pageDown, .home, .toEnd],
    (a.handleKey key).2 = .moved ∧ (a.handleKey key).1.text = a.text

theorem flattens {a : TextArea} (h : a.Sound) (hu : a.Unbroken) : a.Flattens where
  lines := List.ne_nil_of_length_pos (Nat.zero_lt_of_lt h.row)
  unbroken := hu
  row := h.row
  col := h.col
  offset := offset_le h
  inRange := Edit.checked?_eq h
  keyInRange := handleKey?_eq h
  char c := ⟨rfl, flat_insert h (insertChar_sound h c)
    ⟨beforeCursor_insertChar h c, afterCursor_insertChar h c⟩⟩
  enter := ⟨rfl, flat_insert h (insertNewline_sound h) (insertNewline_cut h)⟩
  newline := flat_insert h (insertNewline_sound h) (insertNewline_cut h)
  insert s := flat_insert h (insertString_sound h s) (insertString_cut h s)
  backspaceStart hstart := by
    rcases flat_backspace h with ⟨-, hsame⟩ | ⟨hpos, -⟩
    · rw [handleKey_backspace, hsame]
      exact ⟨rfl, rfl⟩
    · omega
  backspace hpos := by
    rcases flat_backspace h with ⟨hstart, -⟩ | ⟨-, htaken, hflat⟩
    · omega
    · rw [handleKey_backspace, htaken]
      exact ⟨rfl, rfl, hflat⟩
  deleteEnd hend := by
    rcases flat_delete h with ⟨-, hsame⟩ | ⟨hbefore, -⟩
    · rw [handleKey_delete, hsame]
      exact ⟨rfl, rfl⟩
    · omega
  delete hbefore := by
    rcases flat_delete h with ⟨hend, -⟩ | ⟨-, htaken, hflat⟩
    · omega
    · rw [handleKey_delete, htaken]
      exact ⟨rfl, rfl, hflat⟩
  left := ⟨rfl, flat_left h⟩
  right := ⟨rfl, flat_right h⟩
  moves key hkey := by
    simp only [List.mem_cons, List.not_mem_nil, or_false] at hkey
    rcases hkey with rfl | rfl | rfl | rfl | rfl | rfl <;> exact ⟨rfl, rfl⟩

/-- A buffer is one text with one cursor. It starts with the given text and the cursor before it,
and whatever edits come, as long as none of them types a line break as a character, every place
that they touch is there, and each operation on the buffer they lead to is the operation of that
name on the flat text. -/
theorem buffers_are_flat_texts (t : String) :
    (ofString t).text = t ∧ (ofString t).flat = ⟨t.toList, 0⟩ ∧
      ∀ edits : List Edit, (∀ e ∈ edits, e ≠ .key (.char '\n')) →
        edits.foldlM Edit.checked? (ofString t) = some (edits.foldl Edit.apply (ofString t)) ∧
          (edits.foldl Edit.apply (ofString t)).Flattens := by
  have htext : (ofString t).text = t := by
    rw [text, ofString, joinLines_splitOnChar, String.ofList_toList]
  have hsound := ofString_sound t
  refine ⟨htext, ?_, ?_⟩
  · rw [flat, htext]
    refine congrArg (FlatText.mk t.toList) ?_
    show offsetIn (ofString t).lines 0 0 = 0
    cases (ofString t).lines <;> rfl
  · intro edits hedits
    exact ⟨edits_inRange hsound edits, flattens (edits_sound hsound edits)
      (edits_unbroken hsound (ofString_unbroken t) hedits)⟩

/-- Two lines are joined, a text of two lines is typed in between, and its last character is taken
out again. -/
theorem joined_and_split_lines :
    let edits : List Edit := [.key .toEnd, .delete, .insert "x\ny", .key .backspace]
    let a := edits.foldl Edit.apply (ofString "ab\ncd")
    (∀ e ∈ edits, e ≠ .key (.char '\n')) ∧ a.flat = ⟨"abx\ncd".toList, 4⟩ ∧
      edits.foldlM Edit.checked? (ofString "ab\ncd") = some a ∧ a.Flattens := by
  intro edits a
  have hedits : ∀ e ∈ edits, e ≠ .key (.char '\n') := by decide
  obtain ⟨-, -, hall⟩ := buffers_are_flat_texts "ab\ncd"
  exact ⟨hedits, by decide +kernel, hall edits hedits⟩

end TextArea

end FunctionConsole
