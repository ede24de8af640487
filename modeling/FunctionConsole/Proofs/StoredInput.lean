import FunctionConsole.Proofs.FlatText
import FunctionConsole.Proofs.Masking

/-!
# Inputs in bytes

A single-line input counts its cursor in characters, but its text is kept in UTF-8, where a
character has one to four bytes. So every edit has to find the byte at which a character begins, and
one that missed it would tear a character apart.

`StoredInput` is an input as it is kept. Its operations see the bytes alone: characters are counted
by the bytes that begin one, and what is put in or taken out at a place has no result if no
character begins there. From an input whose cursor stands in its text they always have a result, and
it is the stored form of what the operation makes of the input (`StoredInput.handleKey?_stored`).
What that is, is said of the flat text. `edits_hold_text_and_cursor` puts the two together for every
input that can come about.
-/

namespace FunctionConsole

open Text (byteIndex)

namespace Utf8

-- ==================================================== characters among bytes

/-- The bytes of some characters. -/
def encode (cs : List Char) : List UInt8 := cs.flatMap String.utf8EncodeChar

/-- The places of the bytes with which characters begin, if the first byte has place `i`. -/
def startsFrom : (i : Nat) → List UInt8 → List Nat
  | _, [] => []
  | i, b :: bs => if b.IsUTF8FirstByte then i :: startsFrom (i + 1) bs else startsFrom (i + 1) bs

/-- The places at which characters begin. -/
def starts (bs : List UInt8) : List Nat := startsFrom 0 bs

/-- The place at which the `n`-th character begins; the end, if there are no more than `n`. -/
def place (bs : List UInt8) (n : Nat) : Nat := ((starts bs)[n]?).getD bs.length

/-- Bytes with a character put in at a place, if a character begins there or it is the end. -/
def insertAt? (bs : List UInt8) (i : Nat) (c : Char) : Option (List UInt8) :=
  if i ∈ starts bs ∨ i = bs.length then some (bs.take i ++ String.utf8EncodeChar c ++ bs.drop i)
  else none

/-- Bytes without the character that begins at a place, if one does. -/
def removeAt? (bs : List UInt8) (i : Nat) : Option (List UInt8) :=
  if i ∈ starts bs then
    some (bs.take i ++ (bs.drop (i + 1)).dropWhile fun b => ¬ b.IsUTF8FirstByte)
  else none

-- ==================================================== where characters begin

/-- A character begins with its first byte, and with no other. -/
theorem utf8EncodeChar_cases (c : Char) : ∃ b more, String.utf8EncodeChar c = b :: more ∧
    b.IsUTF8FirstByte ∧ ∀ x ∈ more, ¬ x.IsUTF8FirstByte := by
  obtain ⟨b, more, hbytes⟩ := List.exists_cons_of_ne_nil (String.utf8EncodeChar_ne_nil (c := c))
  have hfirst {i : Nat} (hi : i < (b :: more).length) : (b :: more)[i].IsUTF8FirstByte ↔ i = 0 := by
    have hiff := @UInt8.isUTF8FirstByte_getElem_utf8EncodeChar c i (hbytes ▸ hi)
    simpa only [hbytes] using hiff
  refine ⟨b, more, hbytes, (hfirst (Nat.succ_pos _)).mpr rfl, fun x hx => ?_⟩
  obtain ⟨i, hi, rfl⟩ := List.getElem_of_mem hx
  exact fun hstart => Nat.succ_ne_zero i ((hfirst (Nat.succ_lt_succ hi)).mp hstart)

theorem startsFrom_of_none {more : List UInt8} (h : ∀ x ∈ more, ¬ x.IsUTF8FirstByte) (i : Nat)
    (bs : List UInt8) : startsFrom i (more ++ bs) = startsFrom (i + more.length) bs := by
  induction more generalizing i with
  | nil => rfl
  | cons x more ih =>
      rw [List.forall_mem_cons] at h
      rw [List.cons_append, startsFrom, if_neg h.1, ih h.2, List.length_cons]
      exact congrArg (startsFrom · bs) (Nat.add_right_comm i 1 more.length)

theorem startsFrom_char (i : Nat) (c : Char) (bs : List UInt8) :
    startsFrom i (String.utf8EncodeChar c ++ bs) = i :: startsFrom (i + c.utf8Size) bs := by
  obtain ⟨b, more, hbytes, hfirst, hmore⟩ := utf8EncodeChar_cases c
  have hsize : c.utf8Size = 1 + more.length := by
    rw [← String.length_utf8EncodeChar, hbytes, List.length_cons, Nat.add_comm]
  rw [hbytes, List.cons_append, startsFrom, if_pos hfirst, startsFrom_of_none hmore, hsize,
    Nat.add_assoc]

theorem startsFrom_encode (i : Nat) (cs : List Char) :
    startsFrom i (encode cs) = (List.range cs.length).map fun n => i + byteIndex cs n := by
  induction cs generalizing i with
  | nil => rfl
  | cons c cs ih =>
      rw [encode, List.flatMap_cons, startsFrom_char, ← encode, ih, List.length_cons,
        List.range_succ_eq_map, List.map_cons, List.map_map]
      refine congrArg (i :: ·) (List.map_congr_left fun n _ => ?_)
      exact Nat.add_assoc i c.utf8Size (byteIndex cs n)

/-- The bytes alone tell where the characters begin. -/
theorem starts_encode (cs : List Char) :
    starts (encode cs) = (List.range cs.length).map (byteIndex cs) := by
  rw [starts, startsFrom_encode]
  simp

theorem length_starts (cs : List Char) : (starts (encode cs)).length = cs.length := by
  rw [starts_encode, List.length_map, List.length_range]

theorem length_encode_take (cs : List Char) (n : Nat) :
    (encode (cs.take n)).length = byteIndex cs n := by
  induction cs generalizing n with
  | nil => cases n <;> rfl
  | cons c cs ih =>
      cases n with
      | zero => rfl
      | succ n =>
          rw [List.take_succ_cons, encode, List.flatMap_cons, List.length_append,
            String.length_utf8EncodeChar, ← encode, ih]
          rfl

theorem encode_append (cs ds : List Char) : encode (cs ++ ds) = encode cs ++ encode ds :=
  List.flatMap_append

theorem take_encode (cs : List Char) (n : Nat) :
    (encode cs).take (byteIndex cs n) = encode (cs.take n) := by
  have hcut : encode cs = encode (cs.take n) ++ encode (cs.drop n) := by
    rw [← encode_append, List.take_append_drop]
  rw [hcut]
  exact List.take_left' (length_encode_take cs n)

theorem drop_encode (cs : List Char) (n : Nat) :
    (encode cs).drop (byteIndex cs n) = encode (cs.drop n) := by
  have hcut : encode cs = encode (cs.take n) ++ encode (cs.drop n) := by
    rw [← encode_append, List.take_append_drop]
  rw [hcut]
  exact List.drop_left' (length_encode_take cs n)

theorem byteIndex_mem_starts {cs : List Char} {n : Nat} (h : n < cs.length) :
    byteIndex cs n ∈ starts (encode cs) := by
  rw [starts_encode]
  exact List.mem_map_of_mem (List.mem_range.mpr h)

theorem byteIndex_of_end {cs : List Char} {n : Nat} (h : cs.length ≤ n) :
    byteIndex cs n = (encode cs).length := by
  rw [← length_encode_take, List.take_of_length_le h]

theorem place_encode (cs : List Char) (n : Nat) : place (encode cs) n = byteIndex cs n := by
  rw [place, starts_encode, List.getElem?_map]
  rcases Nat.lt_or_ge n cs.length with hin | hend
  · rw [List.getElem?_range hin]
    rfl
  · rw [List.getElem?_eq_none (by rwa [List.length_range]), byteIndex_of_end hend]
    rfl

-- ==================================================== edits at the start of a character

theorem insertAt?_place (cs : List Char) (n : Nat) (c : Char) :
    insertAt? (encode cs) (place (encode cs) n) c =
      some (encode (cs.take n ++ c :: cs.drop n)) := by
  have hplace : byteIndex cs n ∈ starts (encode cs) ∨ byteIndex cs n = (encode cs).length := by
    rcases Nat.lt_or_ge n cs.length with hin | hend
    · exact .inl (byteIndex_mem_starts hin)
    · exact .inr (byteIndex_of_end hend)
  rw [place_encode, insertAt?, if_pos hplace, take_encode, drop_encode, encode_append,
    List.append_assoc]
  rfl

/-- Text begins with a first byte, so that the bytes of the character before it end there. -/
theorem dropWhile_encode {more : List UInt8} (h : ∀ x ∈ more, ¬ x.IsUTF8FirstByte)
    (cs : List Char) :
    (more ++ encode cs).dropWhile (fun b => ¬ b.IsUTF8FirstByte) = encode cs := by
  rw [List.dropWhile_append_of_pos (by simpa using h)]
  cases cs with
  | nil => rfl
  | cons c cs =>
      obtain ⟨b, rest, hbytes, hfirst, -⟩ := utf8EncodeChar_cases c
      rw [encode, List.flatMap_cons, hbytes, List.cons_append]
      exact List.dropWhile_cons_of_neg (by simpa using hfirst)

theorem removeAt?_place {cs : List Char} {n : Nat} (h : n < cs.length) :
    removeAt? (encode cs) (place (encode cs) n) = some (encode (cs.eraseIdx n)) := by
  obtain ⟨b, more, hbytes, -, hmore⟩ := utf8EncodeChar_cases cs[n]
  have hrest : (encode cs).drop (byteIndex cs n + 1) = more ++ encode (cs.drop (n + 1)) := by
    rw [← List.drop_drop, drop_encode, List.drop_eq_getElem_cons h, encode, List.flatMap_cons,
      hbytes]
    rfl
  rw [place_encode, removeAt?, if_pos (byteIndex_mem_starts h), take_encode, hrest,
    dropWhile_encode hmore, ← encode_append, List.eraseIdx_eq_take_drop_succ]

/-- The two bytes of a character go together, and nothing is taken out between them. -/
example : removeAt? (encode ['h', 'é', 'l']) 1 = some (encode ['h', 'l']) ∧
    removeAt? (encode ['h', 'é', 'l']) 2 = none := by decide

end Utf8

-- ==================================================== inputs as they are kept

/-- An input as it is kept: its text in bytes, and how many characters stand before the cursor. -/
structure StoredInput where
  bytes : List UInt8
  cursor : Nat
  masked : Bool
  deriving DecidableEq, Repr

namespace StoredInput

/-- The number of characters. -/
def count (s : StoredInput) : Nat := (Utf8.starts s.bytes).length

/-- Replaces the text and moves the cursor to its end. -/
def setBytes (s : StoredInput) (bytes : List UInt8) : StoredInput :=
  { s with bytes, cursor := (Utf8.starts bytes).length }

def insertChar? (s : StoredInput) (c : Char) : Option StoredInput :=
  (Utf8.insertAt? s.bytes (Utf8.place s.bytes s.cursor) c).map fun bytes =>
    { s with bytes, cursor := s.cursor + 1 }

def backspace? (s : StoredInput) : Option (StoredInput × Bool) :=
  if s.cursor = 0 then some (s, false)
  else
    (Utf8.removeAt? s.bytes (Utf8.place s.bytes (s.cursor - 1))).map fun bytes =>
      ({ s with bytes, cursor := s.cursor - 1 }, true)

def delete? (s : StoredInput) : Option (StoredInput × Bool) :=
  if s.count ≤ s.cursor then some (s, false)
  else
    (Utf8.removeAt? s.bytes (Utf8.place s.bytes s.cursor)).map fun bytes => ({ s with bytes }, true)

/-- What a key does, if a character begins at every place that it touches. -/
def handleKey? (s : StoredInput) : Key → Option (StoredInput × KeyEffect)
  | .char c => (s.insertChar? c).map fun s' => (s', .edited)
  | .backspace => s.backspace?.map fun p => (p.1, .ofRemoval p.2)
  | .delete => s.delete?.map fun p => (p.1, .ofRemoval p.2)
  | .left => some ({ s with cursor := s.cursor - 1 }, .moved)
  | .right => some ({ s with cursor := min (s.cursor + 1) s.count }, .moved)
  | .home => some ({ s with cursor := 0 }, .moved)
  | .toEnd => some ({ s with cursor := s.count }, .moved)
  | .ctrl c =>
    if c = 'u' then some ({ s with bytes := [], cursor := 0 }, .edited) else some (s, .ignored)
  | _ => some (s, .ignored)

/-- The bytes that are drawn. -/
def display (s : StoredInput) : List UInt8 :=
  if s.masked then Utf8.encode (List.replicate s.count '•') else s.bytes

end StoredInput

namespace TextInput

/-- An input as it is kept. -/
def stored (t : TextInput) : StoredInput := ⟨Utf8.encode t.value.toList, t.cursor, t.masked⟩

/-- An input as a text with a cursor. -/
def flat (t : TextInput) : FlatText := ⟨t.value.toList, t.cursor⟩

/-- The cursor stands in the text, at most behind its last character. -/
def Sound (t : TextInput) : Prop := t.cursor ≤ t.chars.length

/-- How an input comes about. -/
inductive Opening where
  | empty
  | text (s : String)
  | secret
  deriving DecidableEq, Repr

/-- The input that comes about. -/
def Opening.input : Opening → TextInput
  | .empty => {}
  | .text s => .ofString s
  | .secret => .secret

/-- What is done to an input: by a key, or by the screen that has it. -/
inductive Edit where
  | key (k : Key)
  | insert (c : Char)
  | set (s : String)
  | clear
  | backspace
  | delete
  deriving DecidableEq, Repr

/-- The input after an edit. -/
def Edit.apply (t : TextInput) : Edit → TextInput
  | .key k => (t.handleKey k).1
  | .insert c => t.insertChar c
  | .set s => t.setValue s
  | .clear => t.clear
  | .backspace => t.backspace.1
  | .delete => t.delete.1

end TextInput

/-- The stored input after an edit, if a character begins at every place that it touches. -/
def StoredInput.edited? (s : StoredInput) : TextInput.Edit → Option StoredInput
  | .key k => (s.handleKey? k).map (·.1)
  | .insert c => s.insertChar? c
  | .set v => some (s.setBytes (Utf8.encode v.toList))
  | .clear => some { s with bytes := [], cursor := 0 }
  | .backspace => s.backspace?.map (·.1)
  | .delete => s.delete?.map (·.1)

-- ==================================================== the cursor

namespace TextInput

theorem toList_value (t : TextInput) : t.value.toList = t.chars := String.toList_ofList

theorem length_value (t : TextInput) : t.value.length = t.chars.length := String.length_ofList

theorem Opening.input_sound (o : Opening) : o.input.Sound := by
  cases o <;> exact Nat.le_refl _

section

variable {t : TextInput} (h : t.Sound)

include h

theorem insertChar_sound (c : Char) : (t.insertChar c).Sound := by
  have hcursor : t.cursor ≤ t.chars.length := h
  simp only [Sound, insertChar, List.length_append, List.length_cons, List.length_take,
    List.length_drop]
  omega

theorem backspace_sound : t.backspace.1.Sound := by
  have hcursor : t.cursor ≤ t.chars.length := h
  unfold backspace
  split
  · exact h
  · next n hn =>
      show n ≤ (t.chars.eraseIdx n).length
      rw [List.length_eraseIdx_of_lt (by omega)]
      omega

theorem delete_sound : t.delete.1.Sound := by
  unfold delete
  split
  · next hin =>
      show t.cursor ≤ (t.chars.eraseIdx t.cursor).length
      rw [List.length_eraseIdx_of_lt hin]
      omega
  · exact h

theorem handleKey_sound (key : Key) : (t.handleKey key).1.Sound := by
  have hcursor : t.cursor ≤ t.chars.length := h
  cases key with
  | char c => exact insertChar_sound h c
  | backspace => exact backspace_sound h
  | delete => exact delete_sound h
  | left => exact Nat.le_trans (Nat.sub_le _ _) h
  | right => exact Nat.min_le_right _ _
  | home => exact Nat.zero_le _
  | toEnd => exact Nat.le_refl _
  | ctrl c =>
      by_cases hc : c = 'u'
      · subst hc
        exact Nat.zero_le _
      · rw [handleKey_ctrl hc]
        exact h
  | _ => exact h

theorem Edit.apply_sound (e : Edit) : (e.apply t).Sound := by
  cases e with
  | key k => exact handleKey_sound h k
  | insert c => exact insertChar_sound h c
  | set s => exact Nat.le_refl _
  | clear => exact Nat.zero_le _
  | backspace => exact backspace_sound h
  | delete => exact delete_sound h

end

end TextInput

-- ==================================================== bytes follow characters

namespace StoredInput

variable {t : TextInput}

theorem count_stored (t : TextInput) : t.stored.count = t.chars.length := by
  rw [count, TextInput.stored, Utf8.length_starts, TextInput.toList_value]

theorem insertChar?_stored (t : TextInput) (c : Char) :
    t.stored.insertChar? c = some (t.insertChar c).stored := by
  simp only [insertChar?, TextInput.stored, Utf8.insertAt?_place, Option.map_some,
    TextInput.toList_value]
  rfl

theorem backspace?_stored (h : t.Sound) :
    t.stored.backspace? = some (t.backspace.1.stored, t.backspace.2) := by
  have hcursor : t.cursor ≤ t.chars.length := h
  unfold backspace? TextInput.backspace
  split
  · next hzero => simp [show t.cursor = 0 from hzero]
  · next hpos =>
      obtain ⟨n, hn⟩ := Nat.exists_eq_add_one_of_ne_zero (show t.cursor ≠ 0 from hpos)
      have hin : n < t.chars.length := by omega
      simp only [TextInput.stored, TextInput.toList_value, hn, Nat.add_sub_cancel,
        Utf8.removeAt?_place hin, Option.map_some]

theorem delete?_stored (t : TextInput) :
    t.stored.delete? = some (t.delete.1.stored, t.delete.2) := by
  unfold delete? TextInput.delete
  rw [count_stored]
  by_cases hin : t.cursor < t.chars.length
  · rw [if_neg (Nat.not_le_of_lt hin : ¬ t.chars.length ≤ t.stored.cursor), if_pos hin]
    simp only [TextInput.stored, TextInput.toList_value, Utf8.removeAt?_place hin, Option.map_some]
  · rw [if_pos (Nat.le_of_not_lt hin : t.chars.length ≤ t.stored.cursor), if_neg hin]

/-- Whatever the key, a character begins at every place that it touches, and the bytes are those of
the text afterwards. -/
theorem handleKey?_stored (h : t.Sound) (key : Key) :
    t.stored.handleKey? key = some ((t.handleKey key).1.stored, (t.handleKey key).2) := by
  cases key with
  | char c => exact congrArg (Option.map _) (insertChar?_stored t c)
  | backspace => exact congrArg (Option.map _) (backspace?_stored h)
  | delete => exact congrArg (Option.map _) (delete?_stored t)
  | right =>
      show some ({ t.stored with cursor := min (t.cursor + 1) t.stored.count }, KeyEffect.moved) = _
      rw [count_stored]
      rfl
  | toEnd =>
      show some ({ t.stored with cursor := t.stored.count }, KeyEffect.moved) = _
      rw [count_stored]
      rfl
  | ctrl c =>
      by_cases hc : c = 'u'
      · subst hc
        rfl
      · rw [TextInput.handleKey_ctrl hc]
        exact if_neg hc
  | _ => rfl

theorem edited?_stored (h : t.Sound) (e : TextInput.Edit) :
    t.stored.edited? e = some (e.apply t).stored := by
  cases e with
  | key k => rw [edited?, handleKey?_stored h]; rfl
  | insert c => exact insertChar?_stored t c
  | set s =>
      rw [edited?, setBytes, Utf8.length_starts, TextInput.Edit.apply]
      simp only [TextInput.stored, TextInput.toList_value, TextInput.setValue]
  | clear => rfl
  | backspace => rw [edited?, backspace?_stored h]; rfl
  | delete => rw [edited?, delete?_stored]; rfl

theorem edits_stored (h : t.Sound) (edits : List TextInput.Edit) :
    edits.foldlM edited? t.stored = some (edits.foldl TextInput.Edit.apply t).stored := by
  induction edits generalizing t with
  | nil => rfl
  | cons e edits ih =>
      rw [List.foldlM_cons, edited?_stored h, Option.bind_eq_bind, Option.bind_some,
        ih (TextInput.Edit.apply_sound h e)]
      rfl

theorem display_stored (t : TextInput) : t.stored.display = Utf8.encode t.display.toList := by
  rw [display, count_stored, TextInput.display]
  show (if t.masked then _ else _) = _
  split
  · rw [String.toList_ofList, List.map_const']
  · rfl

end StoredInput

-- ==================================================== operations on the text

namespace TextInput

section

variable {t : TextInput}

theorem flat_eq (t : TextInput) : t.flat = ⟨t.chars, t.cursor⟩ := by
  rw [flat, toList_value]

theorem flat_insertChar (t : TextInput) (c : Char) : (t.insertChar c).flat = t.flat.insert [c] := by
  rw [flat_eq, flat_eq, FlatText.insert, List.append_assoc]
  rfl

theorem handleKey_backspace (t : TextInput) :
    t.handleKey .backspace = (t.backspace.1, .ofRemoval t.backspace.2) := rfl

theorem handleKey_delete (t : TextInput) :
    t.handleKey .delete = (t.delete.1, .ofRemoval t.delete.2) := rfl

/-- Backspace takes out the character before the cursor, unless there is none. -/
theorem flat_backspace (t : TextInput) : t.cursor = 0 ∧ t.backspace = (t, false) ∨
    0 < t.cursor ∧ t.backspace.2 = true ∧ t.backspace.1.flat = t.flat.eraseBefore := by
  unfold backspace
  split
  · next hzero => exact .inl ⟨hzero, rfl⟩
  · next n hn =>
      refine .inr ⟨by omega, rfl, ?_⟩
      rw [flat_eq, flat_eq, FlatText.eraseBefore, hn]
      rfl

/-- Delete takes out the character after the cursor, unless there is none. -/
theorem flat_delete (h : t.Sound) : t.cursor = t.value.length ∧ t.delete = (t, false) ∨
    t.cursor < t.value.length ∧ t.delete.2 = true ∧ t.delete.1.flat = t.flat.eraseAfter := by
  rw [length_value]
  unfold delete
  split
  · next hin =>
      refine .inr ⟨hin, rfl, ?_⟩
      rw [flat_eq, flat_eq]
      rfl
  · next hend => exact .inl ⟨Nat.le_antisymm h (Nat.le_of_not_lt hend), rfl⟩

theorem edited_of_value_ne {key : Key} (h : (t.handleKey key).1.value ≠ t.value) :
    (t.handleKey key).2 = .edited := by
  by_contra hnot
  refine h (congrArg String.ofList (chars_handleKey ?_))
  exact beq_eq_false_iff_ne.mpr hnot

theorem display_eq (t : TextInput) : t.display =
    if t.masked then String.ofList (List.replicate t.value.length '•') else t.value := by
  rw [display, List.map_const', length_value]

theorem Edit.apply_masked (t : TextInput) (e : Edit) : (e.apply t).masked = t.masked := by
  cases e with
  | key k => exact handleKey_masked t k
  | backspace => exact handleKey_masked t .backspace
  | delete => exact handleKey_masked t .delete
  | _ => rfl

theorem edits_masked (t : TextInput) (edits : List Edit) :
    (edits.foldl Edit.apply t).masked = t.masked := by
  induction edits generalizing t with
  | nil => rfl
  | cons e edits ih => exact (ih _).trans (e.apply_masked t)

theorem edits_sound (h : t.Sound) (edits : List Edit) : (edits.foldl Edit.apply t).Sound := by
  induction edits generalizing t with
  | nil => exact h
  | cons e edits ih => exact ih (e.apply_sound h)

end

/-- An input is a text with a cursor in it: each of its operations does to these what its name says,
and finds the start of a character wherever it touches the bytes of the text. -/
structure HoldsText (t : TextInput) : Prop where
  cursor : t.cursor ≤ t.value.length
  insert : ∀ c, (t.insertChar c).flat = t.flat.insert [c]
  char : ∀ c, t.handleKey (.char c) = (t.insertChar c, .edited)
  /-- At the start of the text Backspace changes nothing and says so. -/
  backspaceStart : t.cursor = 0 → t.backspace = (t, false) ∧ t.handleKey .backspace = (t, .moved)
  backspace : 0 < t.cursor → t.backspace.2 = true ∧
    t.handleKey .backspace = (t.backspace.1, .edited) ∧ t.backspace.1.flat = t.flat.eraseBefore
  /-- So does Delete at the end. -/
  deleteEnd : t.cursor = t.value.length →
    t.delete = (t, false) ∧ t.handleKey .delete = (t, .moved)
  delete : t.cursor < t.value.length → t.delete.2 = true ∧
    t.handleKey .delete = (t.delete.1, .edited) ∧ t.delete.1.flat = t.flat.eraseAfter
  left : t.handleKey .left = ({ t with cursor := t.cursor - 1 }, .moved)
  right : t.handleKey .right = ({ t with cursor := min (t.cursor + 1) t.value.length }, .moved)
  home : t.handleKey .home = ({ t with cursor := 0 }, .moved)
  toEnd : t.handleKey .toEnd = ({ t with cursor := t.value.length }, .moved)
  /-- A change of the text is told, whatever the key. -/
  edited : ∀ key, (t.handleKey key).1.value ≠ t.value → (t.handleKey key).2 = .edited
  display : t.display =
    if t.masked then String.ofList (List.replicate t.value.length '•') else t.value
  stored : ∀ e : Edit, t.stored.edited? e = some (e.apply t).stored
  storedKey : ∀ key,
    t.stored.handleKey? key = some ((t.handleKey key).1.stored, (t.handleKey key).2)
  storedBackspace : t.stored.backspace? = some (t.backspace.1.stored, t.backspace.2)
  storedDelete : t.stored.delete? = some (t.delete.1.stored, t.delete.2)
  storedDisplay : t.stored.display = Utf8.encode t.display.toList

theorem holdsText {t : TextInput} (h : t.Sound) : t.HoldsText where
  cursor := by rwa [length_value]
  insert := flat_insertChar t
  char _ := rfl
  backspaceStart hstart := by
    rcases t.flat_backspace with ⟨-, hsame⟩ | ⟨hpos, -⟩
    · rw [handleKey_backspace, hsame]
      exact ⟨rfl, rfl⟩
    · omega
  backspace hpos := by
    rcases t.flat_backspace with ⟨hstart, -⟩ | ⟨-, htaken, hflat⟩
    · omega
    · rw [handleKey_backspace, htaken]
      exact ⟨rfl, rfl, hflat⟩
  deleteEnd hend := by
    rcases flat_delete h with ⟨-, hsame⟩ | ⟨hbefore, -⟩
    · rw [handleKey_delete, hsame]
      exact ⟨rfl, rfl⟩
    · omega
  delete hbefore := by
    rcases flat_delete h with ⟨hend, -⟩ | ⟨-, htaken, hflat⟩
    · omega
    · rw [handleKey_delete, htaken]
      exact ⟨rfl, rfl, hflat⟩
  left := rfl
  right := by rw [length_value]; rfl
  home := rfl
  toEnd := by rw [length_value]; rfl
  edited _ := edited_of_value_ne
  display := display_eq t
  stored := StoredInput.edited?_stored h
  storedKey := StoredInput.handleKey?_stored h
  storedBackspace := StoredInput.backspace?_stored h
  storedDelete := StoredInput.delete?_stored t
  storedDisplay := StoredInput.display_stored t

/-- An input that begins empty, with a text, or masked, after whatever edits: its cursor is in its
text, and each of its operations does to text and cursor what its name says, as `HoldsText` has it.
All along, characters are put in and taken out of the bytes of the text where a character begins,
and a masked input stays masked. -/
theorem edits_hold_text_and_cursor (opening : Opening) (edits : List Edit) :
    let t := edits.foldl Edit.apply opening.input
    t.HoldsText ∧ t.masked = opening.input.masked ∧
      edits.foldlM StoredInput.edited? opening.input.stored = some t.stored := by
  intro t
  have hsound := opening.input_sound
  exact ⟨holdsText (edits_sound hsound edits), edits_masked _ _,
    StoredInput.edits_stored hsound edits⟩

end TextInput

end FunctionConsole
