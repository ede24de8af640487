import FunctionConsole.Key

/-!
# Single-line input

A text with a cursor that counts the characters before it. A masked input draws one bullet for
every character of its text.
-/

namespace FunctionConsole

/-- A single-line text with a cursor. -/
structure TextInput where
  chars : List Char := []
  cursor : Nat := 0
  masked : Bool := false
  deriving DecidableEq, Repr, Inhabited

namespace TextInput

/-- The text of an input. -/
def value (t : TextInput) : String := String.ofList t.chars

/-- An input with the given text and the cursor at its end. -/
def ofString (s : String) : TextInput := { chars := s.toList, cursor := s.toList.length }

/-- An empty masked input. -/
def secret : TextInput := { masked := true }

/-- Whether the text is empty. -/
def isEmpty (t : TextInput) : Bool := t.chars.isEmpty

/-- Replaces the text and moves the cursor to its end. -/
def setValue (t : TextInput) (s : String) : TextInput :=
  { t with chars := s.toList, cursor := s.toList.length }

/-- Empties the input. -/
def clear (t : TextInput) : TextInput := { t with chars := [], cursor := 0 }

/-- What is drawn: the text, or a bullet for every character of a masked one. -/
def display (t : TextInput) : String :=
  if t.masked then String.ofList (t.chars.map fun _ => '•') else t.value

/-- Inserts a character at the cursor and moves past it. -/
def insertChar (t : TextInput) (c : Char) : TextInput :=
  { t with chars := t.chars.take t.cursor ++ c :: t.chars.drop t.cursor, cursor := t.cursor + 1 }

/-- Inserts the characters of a string one after another. -/
def insertString (t : TextInput) (s : String) : TextInput := s.toList.foldl insertChar t

/-- Removes the character before the cursor; says whether there was one. -/
def backspace (t : TextInput) : TextInput × Bool :=
  match t.cursor with
  | 0 => (t, false)
  | n + 1 => ({ t with chars := t.chars.eraseIdx n, cursor := n }, true)

/-- Removes the character after the cursor; says whether there was one. -/
def delete (t : TextInput) : TextInput × Bool :=
  if t.cursor < t.chars.length then ({ t with chars := t.chars.eraseIdx t.cursor }, true)
  else (t, false)

/-- What a key does to an input. -/
def handleKey (t : TextInput) : Key → TextInput × KeyEffect
  | .char c => (t.insertChar c, .edited)
  | .backspace => (t.backspace.1, .ofRemoval t.backspace.2)
  | .delete => (t.delete.1, .ofRemoval t.delete.2)
  | .left => ({ t with cursor := t.cursor - 1 }, .moved)
  | .right => ({ t with cursor := min (t.cursor + 1) t.chars.length }, .moved)
  | .home => ({ t with cursor := 0 }, .moved)
  | .toEnd => ({ t with cursor := t.chars.length }, .moved)
  | .ctrl c => if c = 'u' then (t.clear, .edited) else (t, .ignored)
  | _ => (t, .ignored)

theorem handleKey_ctrl {t : TextInput} {c : Char} (h : c ≠ 'u') :
    t.handleKey (.ctrl c) = (t, .ignored) := if_neg h

/-- A key that does not change the text leaves it as it is. -/
theorem chars_handleKey {t : TextInput} {key : Key}
    (h : (t.handleKey key).2.changed = false) : (t.handleKey key).1.chars = t.chars := by
  cases key with
  | char c => cases h
  | backspace =>
      change (KeyEffect.ofRemoval t.backspace.2).changed = false at h
      show t.backspace.1.chars = t.chars
      rw [backspace]
      rw [backspace] at h
      split at h
      · rfl
      · cases h
  | delete =>
      change (KeyEffect.ofRemoval t.delete.2).changed = false at h
      show t.delete.1.chars = t.chars
      rw [delete]
      rw [delete] at h
      split at h
      · cases h
      · next hcursor => rw [if_neg hcursor]
  | ctrl c =>
      by_cases hc : c = 'u'
      · subst hc
        cases h
      · rw [handleKey_ctrl hc]
  | _ => rfl

end TextInput

end FunctionConsole
