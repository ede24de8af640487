import FunctionConsole.Json.Codec

/-!
# Reading what was written

The readers take a text from left to right and leave the rest of it, so that what they do to a
written text can be put together from what they do to its parts. `Reads` says that a reader takes a
text, gives a value for it and stops where the text stops, whatever the place that it starts from;
`Reads.andThen` puts two texts together.

Strings and whole numbers are read back here. A string ends at its quote, but a number ends where no
digit, point or exponent goes on: `Ends` is what can stand after it.
-/

namespace FunctionConsole.Json

open Reader

-- ==================================================== texts and what follows them

/-- A reader takes this text, gives a value for it, and leaves what follows, from any place. -/
def Reads {α : Type} (r : Reader α) (text : List Char) (a : α) (tail : List Symbol) : Prop :=
  ∀ p, ∃ p', r ⟨text.map some ++ tail, p⟩ = .ok (a, ⟨tail, p'⟩)

/-- What can stand after a document: nothing, a comma or a closing bracket. -/
inductive Ends : List Symbol → Prop
  | nothing : Ends []
  | comma (rest : List Symbol) : Ends (some ',' :: rest)
  | list (rest : List Symbol) : Ends (some ']' :: rest)
  | object (rest : List Symbol) : Ends (some '\x7d' :: rest)

/-- The first character of a text is one that a document can begin with. -/
def Opens (text : List Char) : Prop := (opening? text.head?).isSome = true

theorem ne_of_opens {c d : Char} (hc : (opening? (some c)).isSome = true)
    (hd : (opening? (some d)).isSome = false) : c ≠ d := by
  rintro rfl
  rw [hc] at hd
  cases hd

theorem Opens.cons {text : List Char} (h : Opens text) :
    ∃ c rest, text = c :: rest ∧ (opening? (some c)).isSome = true := by
  cases text with
  | nil => cases h
  | cons c rest => exact ⟨c, rest, rfl, h⟩

theorem Opens.ne_nil {text : List Char} (h : Opens text) : text ≠ [] := by
  obtain ⟨c, rest, rfl, -⟩ := h.cons
  exact List.cons_ne_nil c rest

/-- What comes later does not change how a text opens. -/
theorem Opens.append {text : List Char} (h : Opens text) (text' : List Char) :
    Opens (text ++ text') := by
  obtain ⟨c, rest, rfl, hc⟩ := h.cons
  exact hc

/-- There are no blanks before a document. -/
theorem skipBlanks_of_opens {c : Char} (hc : (opening? (some c)).isSome = true)
    (rest : List Symbol) (p : Place) :
    Cursor.skipBlanks ⟨some c :: rest, p⟩ = ⟨some c :: rest, p⟩ := by
  have hspace := ne_of_opens hc (d := ' ') (by decide)
  have hline := ne_of_opens hc (d := '\n') (by decide)
  have htab := ne_of_opens hc (d := '\t') (by decide)
  have hreturn := ne_of_opens hc (d := '\r') (by decide)
  simp [Cursor.skipBlanks, Cursor.skipBlanks.go, hspace, hline, htab, hreturn]

section

variable {tail : List Symbol}

/-- After a document comes no other character than the three. -/
theorem Ends.peek_ne (h : Ends tail) (p : Place) {c : Char} (hcomma : c ≠ ',') (hlist : c ≠ ']')
    (hobject : c ≠ '\x7d') : Cursor.peek ⟨tail, p⟩ ≠ some c := by
  cases h <;> simp [Cursor.peek, Ne.symm hcomma, Ne.symm hlist, Ne.symm hobject]

/-- No fraction and no exponent follows a document that is a number. -/
theorem Ends.peek_ne_point (h : Ends tail) (p : Place) : Cursor.peek ⟨tail, p⟩ ≠ some '.' ∧
    Cursor.peek ⟨tail, p⟩ ≠ some 'e' ∧ Cursor.peek ⟨tail, p⟩ ≠ some 'E' := by
  refine ⟨h.peek_ne p ?_ ?_ ?_, h.peek_ne p ?_ ?_ ?_, h.peek_ne p ?_ ?_ ?_⟩
  all_goals decide

theorem Ends.digit?_eq_none (h : Ends tail) (p : Place) : digit? ⟨tail, p⟩ = none := by
  cases h <;> rfl

end

/-- What is written for a list is no shorter than the list, so that its length is enough fuel. -/
theorem length_le_flatMap {α β : Type} {f : α → List β} {l : List α} (h : ∀ a ∈ l, f a ≠ []) :
    l.length ≤ (l.flatMap f).length := by
  induction l with
  | nil => exact Nat.le_refl 0
  | cons a l ih =>
      have ha := List.length_pos_iff.mpr (h a List.mem_cons_self)
      have hl := ih fun b hb => h b (List.mem_cons_of_mem a hb)
      rw [List.flatMap_cons, List.length_append, List.length_cons]
      omega

-- ==================================================== putting texts together

namespace Reads

variable {α β : Type} {r : Reader α} {text : List Char} {a : α} {tail : List Symbol}

/-- What a reader does depends on what is left to read only. -/
theorem of_eq {r' : Reader α} (h : Reads r text a tail)
    (heq : ∀ p, r' ⟨text.map some ++ tail, p⟩ = r ⟨text.map some ++ tail, p⟩) :
    Reads r' text a tail := by
  intro p
  rw [heq p]
  exact h p

theorem give (a : α) (tail : List Symbol) : Reads (Reader.give a) [] a tail :=
  fun p => ⟨p, rfl⟩

theorem eat (c : Char) (tail : List Symbol) : Reads Reader.eat [c] () tail :=
  fun _ => ⟨_, rfl⟩

/-- One text after another is read by one reader after another. -/
theorem andThen {f : α → Reader β} {text' : List Char} {b : β}
    (h : Reads r text a (text'.map some ++ tail)) (h' : Reads (f a) text' b tail) :
    Reads (r.andThen f) (text ++ text') b tail := by
  intro p
  obtain ⟨p', hp'⟩ := h p
  obtain ⟨q, hq⟩ := h' p'
  refine ⟨q, ?_⟩
  rw [Reader.andThen, List.map_append, List.append_assoc, hp']
  exact hq

/-- A reader that takes nothing more does not change what is taken. -/
theorem andThen_nil {f : α → Reader β} {b : β} (h : Reads r text a tail)
    (h' : Reads (f a) [] b tail) : Reads (r.andThen f) text b tail := by
  have hboth : Reads (r.andThen f) (text ++ []) b tail := h.andThen h'
  rwa [List.append_nil] at hboth

theorem map (f : α → β) (h : Reads r text a tail) : Reads (r.map f) text (f a) tail :=
  h.andThen_nil (give (f a) tail)

/-- A reader that is chosen by the first character. -/
theorem of_peek {c : Char} {rest : List Char} {other : Reader α} (h : Reads r (c :: rest) a tail) :
    Reads (fun cur => if cur.peek == some c then r cur else other cur) (c :: rest) a tail := by
  refine h.of_eq fun p => ?_
  simp [Cursor.peek]

/-- A reader that passes blanks first has none to pass. -/
theorem beforeValue (hopens : Opens text) (h : Reads r text a tail) :
    Reads (Reader.beforeValue.andThen fun _ => r) text a tail := by
  refine h.of_eq fun p => ?_
  obtain ⟨c, rest, rfl, hc⟩ := hopens.cons
  rw [Reader.andThen, Reader.beforeValue, List.map_cons, List.cons_append, skipBlanks_of_opens hc]
  rfl

theorem word (letters : List Char) (tail : List Symbol) :
    Reads (Reader.word letters) letters () tail := by
  induction letters with
  | nil => exact give () tail
  | cons c letters ih =>
      intro p
      obtain ⟨p', hp'⟩ := ih (p.after (some c))
      refine ⟨p', ?_⟩
      rw [← hp']
      simp [Reader.word, Cursor.advance]

end Reads

-- ==================================================== whole numbers

theorem le_ofDigitChars (digits : List Char) (n : Nat) : n ≤ Nat.ofDigitChars 10 digits n := by
  induction digits generalizing n with
  | nil => exact Nat.le_refl n
  | cons c digits ih =>
      rw [Nat.ofDigitChars_cons]
      have hrest := ih (10 * n + (c.toNat - '0'.toNat))
      omega

/-- Digits whose number is a word of 64 bits are read to their end. -/
theorem digitsOnto_go {digits : List Char} {tail : List Symbol} (htail : Ends tail)
    (hdigits : ∀ c ∈ digits, c.isDigit = true) {n : Nat} (k : Nat) (p : Place)
    (hbound : Nat.ofDigitChars 10 digits n < UInt64.size) :
    ∃ p', digitsOnto.go (digits.map some ++ tail) p n k =
      (Nat.ofDigitChars 10 digits n, k + digits.length, false, ⟨tail, p'⟩) := by
  induction digits generalizing n k p with
  | nil =>
      refine ⟨p, ?_⟩
      cases htail <;> rfl
  | cons c digits ih =>
      have hc : c.isDigit = true := hdigits c List.mem_cons_self
      rw [Nat.ofDigitChars_cons] at hbound ⊢
      -- what has been read so far is smaller than the number, so it is a word as well
      have hword : n * 10 + (c.toNat - '0'.toNat) < UInt64.size := by
        have hle := le_ofDigitChars digits (10 * n + (c.toNat - '0'.toNat))
        omega
      obtain ⟨p', hp'⟩ := ih (fun d hd => hdigits d (List.mem_cons_of_mem c hd)) (k + 1)
        (p.after (some c)) hbound
      refine ⟨p', ?_⟩
      rw [List.map_cons, List.cons_append, digitsOnto.go, if_pos hc]
      dsimp only
      rw [if_pos hword, Nat.mul_comm n 10, hp', List.length_cons, Nat.add_right_comm]
      rfl

/-- The digits of a positive number begin with one that is not 0. -/
theorem toDigits_eq_cons {m : Nat} (hm : 0 < m) :
    ∃ c digits, Nat.toDigits 10 m = c :: digits ∧ 0 < c.toNat - '0'.toNat := by
  induction m using Nat.strongRecOn with
  | _ m ih =>
      by_cases hlt : m < 10
      · refine ⟨m.digitChar, [], Nat.toDigits_of_lt_base hlt, ?_⟩
        rw [show m.digitChar.toNat - '0'.toNat = m from Nat.toNat_digitChar_sub_48_of_lt_ten hlt]
        exact hm
      · obtain ⟨c, digits, hdigits, hc⟩ := ih (m / 10) (by omega) (by omega)
        refine ⟨c, digits ++ [(m % 10).digitChar], ?_, hc⟩
        rw [Nat.toDigits_of_base_le (by decide) (Nat.le_of_not_lt hlt), hdigits]
        rfl

section

variable {tail : List Symbol} {positive : Bool} {n : Number}

/-- After the digits of a number nothing goes on with it. -/
theorem reads_afterWhole (htail : Ends tail) (m : Nat) :
    Reads (afterWhole true m) [] (.whole m) tail := by
  intro p
  obtain ⟨hpoint, hlower, hupper⟩ := htail.peek_ne_point p
  refine ⟨p, ?_⟩
  simp [afterWhole, hpoint, hlower, hupper]

/-- A negative number is whole down to `-2 ^ 63`. -/
theorem reads_afterWhole_negative (htail : Ends tail) {m : Nat} (hpos : 0 < m)
    (hm : m ≤ Nat.pow 2 63) : Reads (afterWhole false m) [] (.whole (-m)) tail := by
  intro p
  obtain ⟨hpoint, hlower, hupper⟩ := htail.peek_ne_point p
  refine ⟨p, ?_⟩
  have hne : m ≠ 0 := Nat.ne_of_gt hpos
  have hle : ¬ Nat.pow 2 63 < m := Nat.not_lt_of_le hm
  simp [afterWhole, hpoint, hlower, hupper, hne, hle]

/-- Where there is a digit, there is more to read. -/
theorem atEnd_of_digit? {c : Cursor} {d : Nat} (h : digit? c = some d) : c.atEnd = false := by
  cases hrest : c.rest with
  | nil => simp [digit?, Cursor.peek, hrest] at h
  | cons s rest => rw [Cursor.atEnd, hrest, List.isEmpty_cons]

/-- A number that begins with 0 is 0. -/
theorem number_of_zero {c : Cursor} (hdigit : digit? c = some 0) (hnext : digit? c.advance = none) :
    Reader.number positive c = afterWhole positive 0 c.advance := by
  simp [Reader.number, atEnd_of_digit? hdigit, hdigit, hnext]

/-- A number that begins with another digit has as many digits as there are. -/
theorem number_of_pos {c c' : Cursor} {d m k : Nat} (hdigit : digit? c = some d) (hd : 0 < d)
    (hdigits : digitsOnto d c.advance = (m, k, false, c')) :
    Reader.number positive c = afterWhole positive m c' := by
  obtain ⟨e, rfl⟩ := Nat.exists_eq_succ_of_ne_zero (Nat.ne_of_gt hd)
  simp [Reader.number, atEnd_of_digit? hdigit, hdigit, hdigits]

/-- The digits of a number are read to their end, after its sign. -/
theorem reads_number (htail : Ends tail) {m : Nat} (hm : m < UInt64.size)
    (hafter : Reads (afterWhole positive m) [] n tail) :
    Reads (Reader.number positive) (Nat.toDigits 10 m) n tail := by
  intro p
  rcases Nat.eq_zero_or_pos m with rfl | hpos
  · -- a leading 0 has to be the only digit
    obtain ⟨p', hp'⟩ := hafter (p.after (some '0'))
    refine ⟨p', ?_⟩
    have hdigit : digit? ⟨(Nat.toDigits 10 0).map some ++ tail, p⟩ = some 0 := rfl
    rw [number_of_zero hdigit (htail.digit?_eq_none _)]
    exact hp'
  · obtain ⟨c, digits, hdigits, hc⟩ := toDigits_eq_cons hpos
    have hall : ∀ d ∈ c :: digits, d.isDigit = true := by
      intro d hd
      rw [← hdigits] at hd
      exact Nat.isDigit_of_mem_toDigits (by decide) (by decide) hd
    have hvalue : Nat.ofDigitChars 10 digits (c.toNat - '0'.toNat) = m := by
      have hread : Nat.ofDigitChars 10 (Nat.toDigits 10 m) 0 = m := Nat.ofDigitChars_ten_toDigits
      rwa [hdigits, Nat.ofDigitChars_cons, Nat.mul_zero, Nat.zero_add] at hread
    obtain ⟨q, hq⟩ := digitsOnto_go htail (fun d hd => hall d (List.mem_cons_of_mem c hd)) 0
      (p.after (some c)) (hvalue ▸ hm)
    rw [hvalue] at hq
    obtain ⟨p', hp'⟩ := hafter q
    refine ⟨p', ?_⟩
    have hdigit : digit? ⟨(c :: digits).map some ++ tail, p⟩ = some (c.toNat - '0'.toNat) :=
      if_pos (hall c List.mem_cons_self)
    rw [hdigits, number_of_pos hdigit hc hq]
    exact hp'

end

theorem isDigit_head_toDigits (m : Nat) :
    ∃ c digits, Nat.toDigits 10 m = c :: digits ∧ c.isDigit = true := by
  cases hdigits : Nat.toDigits 10 m with
  | nil => exact absurd hdigits Nat.toDigits_ne_nil
  | cons c digits =>
      refine ⟨c, digits, rfl, ?_⟩
      exact Nat.isDigit_of_mem_toDigits (by decide) (by decide) (hdigits ▸ List.mem_cons_self)

/-- The text of a whole number: its digits, after a sign if it is negative. -/
theorem writeNumber_natCast (m : Nat) : writeNumber (.whole m) = Nat.toDigits 10 m :=
  Nat.toList_repr

theorem writeNumber_negSucc (m : Nat) :
    writeNumber (.whole (Int.negSucc m)) = '-' :: Nat.toDigits 10 (m + 1) := by
  show ("-" ++ Nat.repr (m + 1)).toList = _
  rw [String.toList_append, Nat.toList_repr]
  rfl

/-- A whole number is read back if it is a word of 64 bits, signed or not. -/
theorem reads_signedNumber {tail : List Symbol} (htail : Ends tail) {n : Int}
    (hlo : Int64.minValue.toInt ≤ n) (hhi : n < UInt64.size) :
    Reads signedNumber (writeNumber (.whole n)) (.whole n) tail := by
  cases n with
  | ofNat m =>
      have hm : m < UInt64.size := Int.ofNat_lt.mp hhi
      rw [show Int.ofNat m = (m : Int) from rfl, writeNumber_natCast]
      refine (reads_number htail hm (reads_afterWhole htail m)).of_eq fun p => ?_
      obtain ⟨c, digits, hdigits, hc⟩ := isDigit_head_toDigits m
      have hminus : c ≠ '-' := by
        rintro rfl
        cases hc
      simp [signedNumber, hdigits, Cursor.peek, hminus]
  | negSucc m =>
      have hm : m + 1 ≤ Nat.pow 2 63 := by
        have hword : -9223372036854775808 ≤ Int.negSucc m := hlo
        show m + 1 ≤ 9223372036854775808
        omega
      have hsize : m + 1 < UInt64.size := Nat.lt_of_le_of_lt hm (by decide)
      rw [writeNumber_negSucc]
      intro p
      exact reads_number htail hsize (reads_afterWhole_negative htail (Nat.succ_pos m) hm)
        (p.after (some '-'))

-- ==================================================== strings

theorem hexValue?_hexDigit {n : Nat} (h : n < 16) : hexValue? (hexDigit n) = some n := by
  have hall : ∀ m : Fin 16, hexValue? (hexDigit m) = some m.val := by decide
  exact hall ⟨n, h⟩

/-- A character is written as an escape by one letter, as an escape by number, or as it is. -/
theorem writeChar_cases (c : Char) :
    (∃ e, writeChar c = ['\\', e] ∧ letterEscape? e = some c) ∨
      (c.toNat < 0x20 ∧
        writeChar c = ['\\', 'u', '0', '0', hexDigit (c.toNat / 16), hexDigit (c.toNat % 16)]) ∨
      (writeChar c = [c] ∧ c ≠ '"' ∧ c ≠ '\\' ∧ ¬ c.toNat < 0x20) := by
  by_cases hquote : c = '"'
  · exact .inl ⟨'"', by rw [hquote]; decide, by rw [hquote]; rfl⟩
  by_cases hback : c = '\\'
  · exact .inl ⟨'\\', by rw [hback]; decide, by rw [hback]; rfl⟩
  unfold writeChar
  rw [if_neg hquote, if_neg hback]
  iterate 5
    split
    · next hc => exact .inl ⟨_, rfl, hc ▸ rfl⟩
  split
  · next hcontrol => exact .inr (.inl ⟨hcontrol, rfl⟩)
  · next hcontrol => exact .inr (.inr ⟨rfl, hquote, hback, hcontrol⟩)

theorem writeChar_ne_nil (c : Char) : writeChar c ≠ [] := by
  rcases writeChar_cases c with ⟨e, hc, -⟩ | ⟨-, hc⟩ | ⟨hc, -⟩ <;> simp [hc]

section

variable {c : Char} {acc text : List Char} {s : String} {tail : List Symbol} {n : Nat}

/-- The four digits of the escape of a control character. -/
theorem reads_hexEscape (hc : c.toNat < 0x20) (tail : List Symbol) :
    Reads hexEscape ['0', '0', hexDigit (c.toNat / 16), hexDigit (c.toNat % 16)] c.toNat tail := by
  intro p
  have hzero : hexValue? '0' = some 0 := rfl
  have hhigh : hexValue? (hexDigit (c.toNat / 16)) = some (c.toNat / 16) :=
    hexValue?_hexDigit (by omega)
  have hlow : hexValue? (hexDigit (c.toNat % 16)) = some (c.toNat % 16) :=
    hexValue?_hexDigit (by omega)
  have hvalue : ((0 * 16 + 0) * 16 + c.toNat / 16) * 16 + c.toNat % 16 = c.toNat := by omega
  refine ⟨⟨p.line, p.column + 4⟩, ?_⟩
  simp only [hexEscape, List.map_cons, List.map_nil, List.cons_append, List.nil_append, hzero,
    hhigh, hlow, hvalue]

/-- A control character is read back from its escape: it is no half of a pair. -/
theorem reads_unicodeEscape (hc : c.toNat < 0x20) (tail : List Symbol) :
    Reads unicodeEscape ['0', '0', hexDigit (c.toNat / 16), hexDigit (c.toNat % 16)] c tail := by
  refine (reads_hexEscape hc tail).andThen_nil ?_
  have hsecond : ¬ 0xDC00 ≤ c.toNat := by omega
  have hfirst : ¬ 0xD800 ≤ c.toNat := by omega
  simp only [hsecond, hfirst, decide_false, Bool.false_and, Bool.false_eq_true, if_false,
    Char.ofNat_toNat]
  exact .give c tail

/-- A character between the quotes is read back as it is, or from its escape. -/
theorem reads_stringBody_cons (c : Char) (h : Reads (stringBody n true (c :: acc)) text s tail) :
    Reads (stringBody (n + 1) true acc) (writeChar c ++ text) s tail := by
  rcases writeChar_cases c with ⟨e, hc, he⟩ | ⟨hcontrol, hc⟩ | ⟨hc, hquote, hback, hcontrol⟩
  · have hu : e ≠ 'u' := by
      rintro rfl
      rw [show letterEscape? 'u' = none by decide] at he
      cases he
    intro p
    obtain ⟨p', hp'⟩ := h ((p.after (some '\\')).after (some e))
    refine ⟨p', ?_⟩
    rw [← hp', hc]
    simp [stringBody, Cursor.advance, he]
  · have hescape : Reads (unicodeEscape.andThen fun e => stringBody n true (e :: acc)) _ s tail :=
      (reads_unicodeEscape hcontrol (text.map some ++ tail)).andThen h
    intro p
    obtain ⟨p', hp'⟩ := hescape ((p.after (some '\\')).after (some 'u'))
    refine ⟨p', ?_⟩
    rw [← hp', hc]
    simp [stringBody, Cursor.advance]
  · intro p
    obtain ⟨p', hp'⟩ := h (p.after (some c))
    refine ⟨p', ?_⟩
    rw [← hp', hc]
    simp [stringBody, Cursor.advance, hquote, hback, hcontrol]

/-- The characters of a string are read back up to its closing quote. -/
theorem reads_stringBody (chars acc : List Char) (tail : List Symbol) (hn : chars.length < n) :
    Reads (stringBody n true acc) (chars.flatMap writeChar ++ ['"'])
      (String.ofList (acc.reverse ++ chars)) tail := by
  -- the reader keeps what it has read the other way round, whatever that is so far
  induction chars generalizing acc n with
  | nil =>
      obtain ⟨m, rfl⟩ := Nat.exists_eq_succ_of_ne_zero (Nat.ne_of_gt hn)
      rw [List.append_nil]
      exact fun p => ⟨_, rfl⟩
  | cons c chars ih =>
      obtain ⟨m, rfl⟩ := Nat.exists_eq_succ_of_ne_zero (Nat.ne_of_gt (Nat.zero_lt_of_lt hn))
      have hrest := ih (c :: acc) (Nat.lt_of_succ_lt_succ hn)
      rw [List.reverse_cons, List.append_assoc, List.singleton_append] at hrest
      rw [List.flatMap_cons, List.append_assoc]
      exact reads_stringBody_cons c hrest

theorem reads_string (s : String) (tail : List Symbol) :
    Reads Reader.string (writeString s) s tail := by
  have hlength : s.toList.length ≤ (s.toList.flatMap writeChar).length :=
    length_le_flatMap fun c _ => writeChar_ne_nil c
  have hfuel : s.toList.length <
      ((s.toList.flatMap writeChar ++ ['"']).map some ++ tail).length + 1 := by
    simp only [List.length_append, List.length_map]
    omega
  have hbody := reads_stringBody s.toList [] tail hfuel
  rw [List.reverse_nil, List.nil_append, String.ofList_toList] at hbody
  exact fun p => hbody (p.after (some '"'))

end

end FunctionConsole.Json
