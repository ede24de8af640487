/-!
# Blank characters and trimming

A character is blank when it has the property White_Space of Unicode 17: 25 code points in ten
ranges. Everything the console trims (typed keys, names, queries, server messages, configured
addresses) is trimmed by this one rule. The functions on lists of characters are the ones that
statements speak about; the functions on strings are wrappers.
-/

namespace FunctionConsole.Text

/-- The code points with the property White_Space, as closed ranges in ascending order. -/
def blankRanges : List (Nat × Nat) :=
  [(0x09, 0x0D), (0x20, 0x20), (0x85, 0x85), (0xA0, 0xA0), (0x1680, 0x1680), (0x2000, 0x200A),
   (0x2028, 0x2029), (0x202F, 0x202F), (0x205F, 0x205F), (0x3000, 0x3000)]

/-- Whether a code point lies in one of the closed ranges. -/
def inRanges (ranges : List (Nat × Nat)) (n : Nat) : Bool :=
  ranges.any fun r => r.1 ≤ n && n ≤ r.2

/-- Whether a character is white space. -/
def isBlank (c : Char) : Bool := inRanges blankRanges c.toNat

-- ================================================================ trimming

/-- Drops the longest run of characters at the end that satisfy `p`. -/
def dropEndWhile (p : Char → Bool) (l : List Char) : List Char :=
  (l.reverse.dropWhile p).reverse

/-- Drops the characters at both ends that satisfy `p`. -/
def dropAroundWhile (p : Char → Bool) (l : List Char) : List Char :=
  dropEndWhile p (l.dropWhile p)

/-- Drops the blanks at both ends. -/
def trimChars (l : List Char) : List Char := dropAroundWhile isBlank l

/-- Drops the blanks at both ends of a string. -/
def trim (s : String) : String := String.ofList (trimChars s.toList)

/-- Drops the blanks at the end of a string. -/
def trimEnd (s : String) : String := String.ofList (dropEndWhile isBlank s.toList)

/-- Whether a string has no character besides blanks. -/
def isAllBlank (s : String) : Bool := s.toList.all isBlank

/-- A text, unless it is blank. -/
def nonBlank? (s : String) : Option String := if isAllBlank s then none else some s

/-- Dropping blanks at the front of a text takes away nothing else. -/
theorem all_dropWhile_isBlank (l : List Char) :
    (l.dropWhile isBlank).all isBlank = l.all isBlank := by
  induction l with
  | nil => rfl
  | cons c rest ih =>
      rw [List.dropWhile_cons]
      split
      · next h => simpa [h] using ih
      · rfl

/-- Trimming takes away nothing but blanks. -/
theorem all_trimChars (l : List Char) : (trimChars l).all isBlank = l.all isBlank := by
  simp [trimChars, dropAroundWhile, dropEndWhile, all_dropWhile_isBlank, -List.all_eq_true]

/-- Nothing is left of a text exactly if it is blank. -/
theorem trimChars_eq_nil_iff {l : List Char} : trimChars l = [] ↔ l.all isBlank = true := by
  constructor
  · intro hnil
    rw [← all_trimChars, hnil]
    rfl
  · intro hblank
    have hnone : l.dropWhile isBlank = [] := by
      induction l with
      | nil => rfl
      | cons c rest ih =>
          rw [List.all_cons, Bool.and_eq_true] at hblank
          rw [List.dropWhile_cons_of_pos hblank.1, ih hblank.2]
    rw [trimChars, dropAroundWhile, hnone]
    rfl

/-- The empty text is what is left of a blank one. -/
theorem trim_eq_empty_iff {s : String} : trim s = "" ↔ isAllBlank s = true := by
  rw [isAllBlank, ← trimChars_eq_nil_iff, trim]
  constructor
  · intro hempty
    simpa using congrArg String.toList hempty
  · intro hnil
    rw [hnil]

/-- A text is blank exactly if it is so when trimmed. -/
theorem isAllBlank_trim (s : String) : isAllBlank (trim s) = isAllBlank s := by
  rw [isAllBlank, trim, String.toList_ofList, all_trimChars]
  rfl

/-- A text with something in it besides blanks is not empty when trimmed. -/
theorem trim_ne_empty {s : String} (h : isAllBlank s = false) : trim s ≠ "" := by
  intro hempty
  rw [trim_eq_empty_iff, h] at hempty
  cases hempty

-- ================================================================ searching

/-- Splits a text at the first occurrence of `pat`: what stands before it and what stands after. -/
def splitAtFirst (pat : List Char) : List Char → Option (List Char × List Char)
  | [] => if pat = [] then some ([], []) else none
  | c :: rest =>
    if pat.isPrefixOf (c :: rest) then some ([], (c :: rest).drop pat.length)
    else (splitAtFirst pat rest).map fun p => (c :: p.1, p.2)

/-- Whether `pat` occurs in a text as a contiguous piece. -/
def occursIn (pat : List Char) : List Char → Bool
  | [] => pat.isEmpty
  | c :: rest => pat.isPrefixOf (c :: rest) || occursIn pat rest

/-- The pieces of a text between the characters that satisfy `p`; a text without any is one piece.
-/
def splitOnChar (p : Char → Bool) : List Char → List (List Char)
  | [] => [[]]
  | c :: rest =>
    if p c then [] :: splitOnChar p rest
    else match splitOnChar p rest with
      | [] => [[c]]
      | piece :: more => (c :: piece) :: more

/-- However a text is split, there is a piece. -/
theorem splitOnChar_ne_nil (p : Char → Bool) (cs : List Char) : splitOnChar p cs ≠ [] := by
  cases cs with
  | nil => simp [splitOnChar]
  | cons c rest =>
      unfold splitOnChar
      split
      · simp
      · split <;> simp

/-- No piece has a character at which the text is split. -/
theorem splitOnChar_pieces (p : Char → Bool) (cs : List Char) :
    ∀ piece ∈ splitOnChar p cs, ∀ c ∈ piece, p c = false := by
  induction cs with
  | nil => simp [splitOnChar]
  | cons c cs ih =>
      rw [splitOnChar]
      by_cases hc : p c = true
      · rw [if_pos hc]
        intro piece hpiece
        rcases List.mem_cons.mp hpiece with rfl | hpiece
        · simp
        · exact ih piece hpiece
      · rw [if_neg hc]
        rw [Bool.not_eq_true] at hc
        obtain ⟨first, more, hcut⟩ :=
          List.exists_cons_of_ne_nil (splitOnChar_ne_nil p cs)
        rw [hcut] at ih ⊢
        intro piece hpiece d hd
        rcases List.mem_cons.mp hpiece with rfl | hpiece
        · rcases List.mem_cons.mp hd with rfl | hd
          · exact hc
          · exact ih first List.mem_cons_self d hd
        · exact ih piece (List.mem_cons_of_mem _ hpiece) d hd

/-- The lines of a text: a line ends at `\n` or `\r\n`, and a final line break ends the last line
rather than opening an empty one. -/
def lines (s : String) : List String :=
  let pieces := splitOnChar (· == '\n') s.toList
  let kept := if pieces.getLast? = some [] then pieces.dropLast else pieces
  let lastUnbroken := pieces.length == kept.length
  (kept.zipIdx).map fun p =>
    let broken := !(lastUnbroken && p.2 + 1 == kept.length)
    String.ofList (if broken && p.1.getLast? = some '\r' then p.1.dropLast else p.1)

end FunctionConsole.Text
