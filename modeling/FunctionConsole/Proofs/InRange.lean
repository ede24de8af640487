import FunctionConsole.Proofs.Cursor

/-!
# Editing in range

A line is kept in UTF-8 and a buffer as a row of lines, so an edit turns the column of the cursor
into a byte of the line, and reads, cuts and takes out lines by their number. Such a place need not
exist: the byte may lie inside of a character, the line may not be there. The operations of a buffer
pass over that in silence, which would hide a cursor gone astray.

Here each of them is said once more with every place it touches checked, as a function that has no
result where a place is missing (`handleKey?`, `insertString?`). The cursor of a buffer stands in
its text, and from there no place is ever missing: the checked operations always have a result, and
it is the one of the operation itself (`Edit.checked?_eq`).
-/

namespace FunctionConsole

namespace Text

-- ==================================================== characters and bytes

/-- The byte at which the `n`-th character of a text begins; the end of the text, if it has no more
than `n`. -/
def byteIndex : List Char → Nat → Nat
  | c :: cs, n + 1 => c.utf8Size + byteIndex cs n
  | _, _ => 0

/-- A text cut at a byte, unless this lies inside of a character or past the end. -/
def cutAt? : List Char → Nat → Option (List Char × List Char)
  | cs, 0 => some ([], cs)
  | [], _ + 1 => none
  | c :: cs, i + 1 =>
    if c.utf8Size ≤ i + 1 then (cutAt? cs (i + 1 - c.utf8Size)).map fun p => (c :: p.1, p.2)
    else none

/-- A text with a character put in at a byte. -/
def insertAt? (cs : List Char) (i : Nat) (c : Char) : Option (List Char) :=
  (cutAt? cs i).map fun p => p.1 ++ c :: p.2

/-- A text without the character that begins at a byte. -/
def removeAt? (cs : List Char) (i : Nat) : Option (List Char) :=
  (cutAt? cs i).bind fun p => match p.2 with
    | [] => none
    | _ :: back => some (p.1 ++ back)

/-- Where a character begins, or the text ends, it can be cut. -/
theorem cutAt?_byteIndex (cs : List Char) (n : Nat) :
    cutAt? cs (byteIndex cs n) = some (cs.take n, cs.drop n) := by
  induction cs generalizing n with
  | nil => cases n <;> rfl
  | cons c cs ih =>
      cases n with
      | zero => rfl
      | succ n =>
          obtain ⟨size, hsize⟩ : ∃ size, c.utf8Size = size + 1 :=
            Nat.exists_eq_add_one_of_ne_zero (Nat.ne_of_gt (Char.utf8Size_pos c))
          have hindex : byteIndex (c :: cs) (n + 1) = size + byteIndex cs n + 1 := by
            rw [byteIndex, hsize]
            omega
          have hrest : size + byteIndex cs n + 1 - c.utf8Size = byteIndex cs n := by omega
          rw [hindex, cutAt?, if_pos (by omega), hrest, ih]
          rfl

theorem insertAt?_byteIndex (cs : List Char) (n : Nat) (c : Char) :
    insertAt? cs (byteIndex cs n) c = some (cs.take n ++ c :: cs.drop n) := by
  rw [insertAt?, cutAt?_byteIndex]
  rfl

theorem removeAt?_byteIndex {cs : List Char} {n : Nat} (h : n < cs.length) :
    removeAt? cs (byteIndex cs n) = some (cs.eraseIdx n) := by
  rw [removeAt?, cutAt?_byteIndex, List.eraseIdx_eq_take_drop_succ, List.drop_eq_getElem_cons h]
  rfl

end Text

namespace TextArea

-- ==================================================== checked operations

/-- Lines with one put in before the `i`-th. -/
def insertLine? (lines : List (List Char)) (i : Nat) (l : List Char) : Option (List (List Char)) :=
  if i ≤ lines.length then some (lines.take i ++ l :: lines.drop i) else none

/-- A line and the others without it. -/
def removeLine? (lines : List (List Char)) (i : Nat) : Option (List Char × List (List Char)) :=
  lines[i]?.map fun l => (l, lines.eraseIdx i)

/-- The number of the last line. -/
def lastRow? (a : TextArea) : Option Nat :=
  if a.lines = [] then none else some (a.lines.length - 1)

def insertChar? (a : TextArea) (c : Char) : Option TextArea := do
  let l ← a.lines[a.row]?
  let l' ← Text.insertAt? l (Text.byteIndex l a.col) c
  some { a with lines := a.lines.set a.row l', col := a.col + 1 }

def insertNewline? (a : TextArea) : Option TextArea := do
  let l ← a.lines[a.row]?
  let (front, back) ← Text.cutAt? l (Text.byteIndex l a.col)
  let lines ← insertLine? (a.lines.set a.row front) (a.row + 1) back
  some { lines, row := a.row + 1, col := 0 }

def insertAny? (a : TextArea) (c : Char) : Option TextArea :=
  if c = '\n' then a.insertNewline? else a.insertChar? c

def insertString? (a : TextArea) (s : String) : Option TextArea := s.toList.foldlM insertAny? a

def backspace? (a : TextArea) : Option (TextArea × Bool) :=
  if 0 < a.col then do
    let l ← a.lines[a.row]?
    let l' ← Text.removeAt? l (Text.byteIndex l (a.col - 1))
    some ({ a with lines := a.lines.set a.row l', col := a.col - 1 }, true)
  else if a.row = 0 then some (a, false)
  else do
    let (l, lines) ← removeLine? a.lines a.row
    let above ← lines[a.row - 1]?
    some ({ lines := lines.set (a.row - 1) (above ++ l), row := a.row - 1, col := above.length },
      true)

def delete? (a : TextArea) : Option (TextArea × Bool) :=
  if a.col < a.lineLength a.row then do
    let l ← a.lines[a.row]?
    let l' ← Text.removeAt? l (Text.byteIndex l a.col)
    some ({ a with lines := a.lines.set a.row l' }, true)
  else if a.lines.length ≤ a.row + 1 then some (a, false)
  else do
    let (below, lines) ← removeLine? a.lines (a.row + 1)
    let l ← lines[a.row]?
    some ({ a with lines := lines.set a.row (l ++ below) }, true)

/-- What a key does, if every place that it touches is there. -/
def handleKey? (a : TextArea) : Key → Option (TextArea × KeyEffect)
  | .char c => (a.insertChar? c).map fun a' => (a', .edited)
  | .enter => a.insertNewline?.map fun a' => (a', .edited)
  | .backspace => a.backspace?.map fun p => (p.1, .ofRemoval p.2)
  | .delete => a.delete?.map fun p => (p.1, .ofRemoval p.2)
  | .down => a.lastRow?.map fun last => (a.toRow (min (a.row + 1) last), .moved)
  | .pageDown => a.lastRow?.map fun last => (a.toRow (min (a.row + pageRows) last), .moved)
  | key => some (a.handleKey key)

-- ==================================================== nothing is missing

section

variable {a : TextArea}

theorem getElem?_line {row : Nat} (h : row < a.lines.length) :
    a.lines[row]? = some (a.line row) := by
  rw [line, List.getElem?_eq_getElem h]
  rfl

theorem modify_line {row : Nat} (h : row < a.lines.length) (f : List Char → List Char) :
    a.lines.modify row f = a.lines.set row (f (a.line row)) := by
  rw [List.modify_eq_take_cons_drop h, List.set_eq_take_append_cons_drop, if_pos h, line,
    List.getElem?_eq_getElem h]
  rfl

/-- A line is taken out, and the one above is changed. -/
theorem set_eraseIdx_line {row : Nat} (h : row + 1 < a.lines.length) (l : List Char) :
    (a.lines.eraseIdx (row + 1)).set row l =
      a.lines.take row ++ l :: a.lines.drop (row + 2) := by
  have hshorter : row < (a.lines.eraseIdx (row + 1)).length := by
    rw [List.length_eraseIdx_of_lt h]
    omega
  rw [List.set_eq_take_append_cons_drop, if_pos hshorter, List.eraseIdx_eq_take_drop_succ,
    List.take_append_of_le_length (by rw [List.length_take]; omega), List.take_take,
    Nat.min_eq_left (Nat.le_succ row), List.drop_left' (by rw [List.length_take]; omega)]

theorem removeLine?_eq {row : Nat} (h : row < a.lines.length) :
    removeLine? a.lines row = some (a.line row, a.lines.eraseIdx row) := by
  rw [removeLine?, getElem?_line h]
  rfl

theorem getElem?_eraseIdx_line {row : Nat} (h : row + 1 < a.lines.length) :
    (a.lines.eraseIdx (row + 1))[row]? = some (a.line row) := by
  rw [List.getElem?_eraseIdx_of_lt (Nat.lt_succ_self row), getElem?_line (Nat.lt_of_succ_lt h)]

theorem insertChar?_eq (h : a.Sound) (c : Char) : a.insertChar? c = some (a.insertChar c) := by
  simp only [insertChar?, getElem?_line h.row, Text.insertAt?_byteIndex, Option.bind_eq_bind,
    Option.bind_some]
  rw [insertChar, modify_line h.row]

theorem insertNewline?_eq (h : a.Sound) : a.insertNewline? = some a.insertNewline := by
  have hrow := h.row
  let front := a.lines.take a.row ++ [(a.line a.row).take a.col]
  have hfront : front.length = a.row + 1 := by
    rw [List.length_append, List.length_take, List.length_singleton]
    omega
  have hset : a.lines.set a.row ((a.line a.row).take a.col) =
      front ++ a.lines.drop (a.row + 1) := by
    rw [List.set_eq_take_append_cons_drop, if_pos hrow, List.append_cons]
  have hlines : insertLine? (a.lines.set a.row ((a.line a.row).take a.col)) (a.row + 1)
      ((a.line a.row).drop a.col) = some a.insertNewline.lines := by
    rw [insertLine?, if_pos (by rw [List.length_set]; omega), hset, List.take_left' hfront,
      List.drop_left' hfront, List.append_assoc]
    rfl
  simp only [insertNewline?, getElem?_line hrow, Text.cutAt?_byteIndex, Option.bind_eq_bind,
    Option.bind_some, hlines]
  rfl

theorem insertAny?_eq (h : a.Sound) (c : Char) : a.insertAny? c = some (a.insertAny c) := by
  unfold insertAny? insertAny
  split
  · exact insertNewline?_eq h
  · exact insertChar?_eq h c

theorem insertString?_eq (h : a.Sound) (s : String) :
    a.insertString? s = some (a.insertString s) := by
  have hall (cs : List Char) (a : TextArea) (h : a.Sound) :
      cs.foldlM insertAny? a = some (cs.foldl insertAny a) := by
    induction cs generalizing a with
    | nil => rfl
    | cons c cs ih =>
        rw [List.foldlM_cons, insertAny?_eq h, Option.bind_eq_bind, Option.bind_some,
          ih _ (insertAny_sound h c)]
        rfl
  exact hall s.toList a h

theorem backspace?_eq (h : a.Sound) : a.backspace? = some a.backspace := by
  obtain ⟨lines, row, col⟩ := a
  have hrow := h.row
  have hcol := h.col
  unfold backspace? backspace
  cases col with
  | succ col =>
      rw [if_pos (Nat.succ_pos col)]
      simp only [getElem?_line hrow, Option.bind_eq_bind, Option.bind_some, Nat.add_sub_cancel]
      rw [Text.removeAt?_byteIndex (Nat.lt_of_succ_le hcol), Option.bind_some, eraseChar,
        modify_line hrow]
  | zero =>
      rw [if_neg (Nat.lt_irrefl 0)]
      cases row with
      | zero => rfl
      | succ row =>
          rw [if_neg (Nat.succ_ne_zero row)]
          simp only [removeLine?_eq hrow, Option.bind_eq_bind, Option.bind_some,
            Nat.add_sub_cancel, getElem?_eraseIdx_line hrow]
          rw [set_eraseIdx_line hrow]
          rfl

theorem delete?_eq (h : a.Sound) : a.delete? = some a.delete := by
  have hrow := h.row
  unfold delete? delete
  by_cases hcol : a.col < a.lineLength a.row
  · simp only [if_pos hcol, getElem?_line hrow, Option.bind_eq_bind, Option.bind_some,
      Text.removeAt?_byteIndex hcol]
    rw [eraseChar, modify_line hrow]
  · rw [if_neg hcol, if_neg hcol]
    by_cases hlast : a.row + 1 < a.lines.length
    · rw [if_neg (Nat.not_le_of_lt hlast), if_pos hlast]
      simp only [removeLine?_eq hlast, Option.bind_eq_bind, Option.bind_some,
        getElem?_eraseIdx_line hlast]
      rw [set_eraseIdx_line hlast]
      rfl
    · rw [if_pos (Nat.le_of_not_lt hlast), if_neg hlast]

theorem lastRow?_eq (h : a.Sound) : a.lastRow? = some (a.lines.length - 1) := by
  have hne : a.lines ≠ [] := List.ne_nil_of_length_pos (Nat.zero_lt_of_lt h.row)
  rw [lastRow?, if_neg hne]

/-- Whatever the key, every place that it touches is there. -/
theorem handleKey?_eq (h : a.Sound) (key : Key) : a.handleKey? key = some (a.handleKey key) := by
  cases key with
  | char c => exact congrArg (Option.map _) (insertChar?_eq h c)
  | enter => exact congrArg (Option.map _) (insertNewline?_eq h)
  | backspace => exact congrArg (Option.map _) (backspace?_eq h)
  | delete => exact congrArg (Option.map _) (delete?_eq h)
  | down | pageDown => exact congrArg (Option.map _) (lastRow?_eq h)
  | _ => rfl

end

-- ==================================================== edits

/-- What is done to a buffer: by a key, or by the screen that has it. -/
inductive Edit where
  | key (k : Key)
  | insert (s : String)
  | newline
  | backspace
  | delete
  deriving DecidableEq, Repr

/-- The buffer after an edit. -/
def Edit.apply (a : TextArea) : Edit → TextArea
  | .key k => (a.handleKey k).1
  | .insert s => a.insertString s
  | .newline => a.insertNewline
  | .backspace => a.backspace.1
  | .delete => a.delete.1

/-- The buffer after an edit, if every place that it touches is there. -/
def Edit.checked? (a : TextArea) : Edit → Option TextArea
  | .key k => (a.handleKey? k).map (·.1)
  | .insert s => a.insertString? s
  | .newline => a.insertNewline?
  | .backspace => a.backspace?.map (·.1)
  | .delete => a.delete?.map (·.1)

variable {a : TextArea}

theorem Edit.apply_sound (h : a.Sound) (e : Edit) : (e.apply a).Sound := by
  cases e with
  | key k => exact handleKey_sound h k
  | insert s => exact insertString_sound h s
  | newline => exact insertNewline_sound h
  | backspace => exact backspace_sound h
  | delete => exact delete_sound h

/-- From a cursor that stands in its text every edit finds all that it touches. -/
theorem Edit.checked?_eq (h : a.Sound) (e : Edit) : e.checked? a = some (e.apply a) := by
  cases e with
  | key k => rw [checked?, handleKey?_eq h]; rfl
  | insert s => exact insertString?_eq h s
  | newline => exact insertNewline?_eq h
  | backspace => rw [checked?, backspace?_eq h]; rfl
  | delete => rw [checked?, delete?_eq h]; rfl

end TextArea

end FunctionConsole
