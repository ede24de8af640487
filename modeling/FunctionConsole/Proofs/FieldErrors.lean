import FunctionConsole.Api.Error
import FunctionConsole.Proofs.Pattern
import FunctionConsole.Proofs.TextEnds

/-!
# Complaints about fields

A message is about a field if, trimmed, it is the field's name, a colon, blanks, and a text on one
line. The name ends at the colon, since a colon is no word character, and the text begins behind the
blanks. As a trimmed message does not end in a blank, the pattern for such messages never gives
anything back: what its longest runs take is what counts.

`field_errors_are_recognised` says which messages are taken apart, that it is the pattern that takes
them apart, and that the message of every failure about a field is taken apart into that field and
what is said of it.
-/

namespace FunctionConsole

namespace Text

/-- The numbers in the ranges. -/
def numbersIn (ranges : List (Nat × Nat)) : List Nat :=
  ranges.flatMap fun r => List.range' r.1 (r.2 + 1 - r.1)

theorem mem_numbersIn {ranges : List (Nat × Nat)} {n : Nat} (h : inRanges ranges n = true) :
    n ∈ numbersIn ranges := by
  obtain ⟨r, hr, hn⟩ := List.any_eq_true.mp h
  simp only [Bool.and_eq_true, decide_eq_true_eq] at hn
  refine List.mem_flatMap.mpr ⟨r, hr, List.mem_range'_1.mpr ?_⟩
  omega

/-- No word character is blank: the tables have no number in common. -/
theorem isBlank_of_isWord {c : Char} (h : isWord c = true) : isBlank c = false := by
  rw [Bool.eq_false_iff]
  intro hblank
  have hnone : ∀ n ∈ numbersIn blankRanges, isWord (Char.ofNat n) = false := by decide +kernel
  have hc := hnone c.toNat (mem_numbersIn hblank)
  rw [Char.ofNat_toNat, h] at hc
  cases hc

end Text

namespace ApiError

-- ==================================================== taking apart

/-- A field with something said of it: the name is made of word characters, and what is said stands
on one line and does not begin with a blank. -/
structure Complaint (field text : String) : Prop where
  named : field ≠ ""
  word : ∀ c ∈ field.toList, Text.isWord c = true
  said : text ≠ ""
  opens : ∀ c ∈ text.toList.head?, Text.isBlank c = false
  oneLine : '\n' ∉ text.toList

variable {message field text : String}

theorem splitFieldError_of_cut (h : Complaint field text) {blanks : List Char}
    (hblanks : ∀ c ∈ blanks, Text.isBlank c = true)
    (hcut : Text.trimChars message.toList = field.toList ++ ':' :: (blanks ++ text.toList)) :
    splitFieldError message = some (field, text) := by
  have hcolon : ¬ Text.isWord ':' = true := Bool.eq_false_iff.mp Text.isWord_colon
  have htext : (blanks ++ text.toList).dropWhile Text.isBlank = text.toList := by
    rw [List.dropWhile_append_of_pos hblanks, Text.dropWhile_of_first h.opens]
  have hfull :
      (field.toList.isEmpty || text.toList.isEmpty || text.toList.contains '\n') = false := by
    simp [h.named, h.said, h.oneLine]
  unfold splitFieldError
  dsimp only
  rw [hcut, List.takeWhile_append_of_pos h.word, List.takeWhile_cons_of_neg hcolon,
    List.dropWhile_append_of_pos h.word, List.dropWhile_cons_of_neg hcolon, List.append_nil]
  simp only [htext, hfull, Bool.false_eq_true, if_false, String.ofList_toList]

theorem cut_of_splitFieldError (h : splitFieldError message = some (field, text)) :
    Complaint field text ∧ ∃ blanks : List Char, (∀ c ∈ blanks, Text.isBlank c = true) ∧
      Text.trimChars message.toList = field.toList ++ ':' :: (blanks ++ text.toList) := by
  unfold splitFieldError at h
  dsimp only at h
  generalize Text.trimChars message.toList = l at h ⊢
  split at h
  · next rest hrest =>
      split at h
      · cases h
      · next hfull =>
          cases h
          simp only [Bool.not_eq_true, Bool.or_eq_false_iff, List.isEmpty_eq_false_iff] at hfull
          obtain ⟨⟨hnamed, hsaid⟩, honeLine⟩ := hfull
          rw [String.toList_ofList, String.toList_ofList]
          refine ⟨⟨?_, ?_, ?_, ?_, ?_⟩, rest.takeWhile Text.isBlank, ?_, ?_⟩
          · simpa using hnamed
          · intro c hc
            rw [String.toList_ofList] at hc
            exact List.mem_takeWhile_imp hc
          · simpa using hsaid
          · rw [String.toList_ofList]
            exact Text.first_of_dropWhile
          · simpa using honeLine
          · exact fun c hc => List.mem_takeWhile_imp hc
          · rw [List.takeWhile_append_dropWhile, ← hrest, List.takeWhile_append_dropWhile]
  · cases h

-- ==================================================== the pattern

/-- The rest of a line, of at least one character. -/
def restOfLine : Pattern := .kept (.someOf (· != '\n'))

/-- What messages about fields are read with: a word, a colon, blanks, and the rest of the line. -/
def fieldError : Pattern :=
  .both (.kept (.someOf Text.isWord)) <|
    .both (.one (· == ':')) (.both (.run Text.isBlank) restOfLine)

theorem first?_restOfLine (before : List (List Char)) (l : List Char) :
    restOfLine.first? l (Pattern.whole before) =
      if l.isEmpty || l.contains '\n' then none else some (before ++ [l]) := by
  rw [restOfLine, Pattern.first?_kept, Pattern.first?_someOf]
  · dsimp only [Pattern.longest, Pattern.whole]
    by_cases hbreak : '\n' ∈ l
    · have hrest : l.dropWhile (· != '\n') ≠ [] := fun hnil => by
        simpa using List.dropWhile_eq_nil_iff.mp hnil '\n' hbreak
      simp [hbreak, hrest]
    · have hline : ∀ c ∈ l, (c != '\n') = true := by
        intro c hc
        rw [bne_iff_ne]
        rintro rfl
        exact hbreak hc
      rw [List.takeWhile_eq_self_iff.mpr hline, List.dropWhile_eq_nil_iff.mpr hline]
      simp [hbreak]
  · rintro - r ⟨⟨c, rest, hrest, -⟩, -, -⟩
    simp [Pattern.whole, hrest]

/-- The blanks behind the colon are not given back: a text without blanks at its end has something
left behind them, if anything, and a line break stays one. -/
theorem first?_blanks_restOfLine (before : List (List Char)) {l : List Char}
    (hend : ∀ c ∈ l.getLast?, Text.isBlank c = false) :
    (Pattern.both (.run Text.isBlank) restOfLine).first? l (Pattern.whole before) =
      restOfLine.first? (l.dropWhile Text.isBlank) (Pattern.whole before) := by
  rw [Pattern.first?_both_whole, Pattern.first?_run]
  · rw [Pattern.longest, List.append_nil]
  · rintro hnone r ⟨⟨c, rest, hrest, hc⟩, hleaves, hwithin⟩
    rw [Pattern.longest, first?_restOfLine] at hnone
    rw [first?_restOfLine]
    have hbreak : '\n' ∈ l.dropWhile Text.isBlank := by
      by_contra hline
      have hnil : l.dropWhile Text.isBlank = [] := by simpa [hline] using hnone
      have hne : l ≠ [] := by
        rintro rfl
        rw [hrest] at hwithin
        exact absurd (List.suffix_nil.mp hwithin) (List.cons_ne_nil c rest)
      have hlast := hend _ (List.getLast?_eq_some_getLast hne)
      rw [List.dropWhile_eq_nil_iff.mp hnil _ (List.getLast_mem hne)] at hlast
      cases hlast
    simp [hleaves.subset hbreak]

theorem first?_colon (body : Pattern) (before : List (List Char)) (l : List Char) :
    (Pattern.both (.one (· == ':')) body).first? l (Pattern.whole before) =
      match l with
      | ':' :: rest => body.first? rest (Pattern.whole before)
      | _ => none := by
  rw [Pattern.first?_both_whole]
  split
  · rw [Pattern.first?_one_cons, if_pos (by decide), List.append_nil]
  · next hother =>
      cases l with
      | nil => rfl
      | cons c rest =>
          have hc : c ≠ ':' := fun h => hother rest (by rw [h])
          rw [Pattern.first?_one_cons, if_neg (by simpa using hc)]

/-- The name is not given back either, since a colon has to come behind it. -/
theorem captures?_named (l : List Char) :
    fieldError.captures? l =
      if (l.takeWhile Text.isWord).isEmpty then none
      else match l.dropWhile Text.isWord with
        | ':' :: rest => (Pattern.both (.run Text.isBlank) restOfLine).first? rest
            (Pattern.whole [l.takeWhile Text.isWord])
        | _ => none := by
  rw [Pattern.captures?, fieldError, Pattern.first?_both_whole, Pattern.first?_kept,
    Pattern.first?_someOf]
  · rw [first?_colon]
    rfl
  · rintro - r ⟨⟨c, rest, hrest, hc⟩, -, -⟩
    rw [first?_colon, hrest]
    split
    · next heq =>
        rw [(List.cons_eq_cons.mp heq).1, Text.isWord_colon] at hc
        cases hc
    · rfl

/-- Messages are taken apart by the pattern. -/
theorem captures?_fieldError (message : String) :
    fieldError.captures? (Text.trimChars message.toList) =
      (splitFieldError message).map fun p => [p.1.toList, p.2.toList] := by
  have hend : ∀ c ∈ (Text.trimChars message.toList).getLast?, Text.isBlank c = false :=
    Text.last_of_dropEndWhile
  rw [captures?_named]
  unfold splitFieldError
  dsimp only
  generalize Text.trimChars message.toList = l at hend ⊢
  have hbehind : l.dropWhile Text.isWord <:+ l := List.dropWhile_suffix Text.isWord
  generalize l.dropWhile Text.isWord = behind at hbehind ⊢
  split
  · next hunnamed =>
      rw [hunnamed]
      split <;> rfl
  · next hnamed =>
      split
      · next rest =>
          have hrest : ∀ c ∈ rest.getLast?, Text.isBlank c = false := by
            obtain ⟨front, rfl⟩ := (List.suffix_cons ':' rest).trans hbehind
            intro c hc
            apply hend
            rw [List.getLast?_append, hc]
            rfl
          rw [first?_blanks_restOfLine _ hrest, first?_restOfLine, Bool.eq_false_iff.mpr hnamed]
          simp only [Bool.false_or]
          split
          · rfl
          · simp
      · simp

-- a line break is a blank behind the colon, but nothing is said over two lines
example : fieldError.captures? "name:\n a: b".toList = some ["name".toList, "a: b".toList] ∧
    fieldError.captures? "name: a\nb".toList = none := by decide +kernel

-- ==================================================== putting together

/-- A complaint that does not end in a blank is put together to a message that is not trimmed any
further. -/
theorem splitFieldError_joined (h : Complaint field text)
    (hend : ∀ c ∈ text.toList.getLast?, Text.isBlank c = false) :
    splitFieldError (field ++ ": " ++ text) = some (field, text) := by
  have hjoined :
      (field ++ ": " ++ text).toList = field.toList ++ ':' :: ([' '] ++ text.toList) := by
    rw [String.toList_append, String.toList_append, List.append_assoc]
    rfl
  have hblank : ∀ c ∈ [' '], Text.isBlank c = true := by
    intro c hc
    rw [List.mem_singleton.mp hc]
    decide
  apply splitFieldError_of_cut h hblank
  rw [hjoined]
  apply Text.dropAroundWhile_of_ends
  · intro c hc
    have hfield : field.toList ≠ [] := fun hnil => h.named (String.toList_inj.mp hnil)
    rw [List.head?_append_of_ne_nil _ hfield] at hc
    exact Text.isBlank_of_isWord (h.word c (List.mem_of_head? hc))
  · intro c hc
    have htext : text.toList ≠ [] := fun hnil => h.said (String.toList_inj.mp hnil)
    rw [← List.singleton_append, ← List.append_assoc, ← List.append_assoc,
      List.getLast?_append_of_ne_nil _ htext] at hc
    exact hend c hc

/-- What was taken apart is put together, and taken apart, to the same. -/
theorem splitFieldError_again (h : splitFieldError message = some (field, text)) :
    splitFieldError (field ++ ": " ++ text) = some (field, text) := by
  obtain ⟨hcomplaint, blanks, -, hcut⟩ := cut_of_splitFieldError h
  apply splitFieldError_joined hcomplaint
  intro c hc
  have hend : ∀ c ∈ (Text.trimChars message.toList).getLast?, Text.isBlank c = false :=
    Text.last_of_dropEndWhile
  apply hend
  rw [hcut, List.getLast?_append, List.getLast?_cons, List.getLast?_append, hc]
  rfl

/-- A message is about a field exactly if, trimmed, it is the field's name, a colon, blanks, and
what is said of the field, on one line; this is what the pattern keeps of it. The field and what is
said of it are found again in the two put together, which is the message of every failure about a
field. -/
theorem field_errors_are_recognised (message field text : String) :
    (splitFieldError message = some (field, text) ↔
      Complaint field text ∧ ∃ blanks, Text.isAllBlank blanks = true ∧
        Text.trim message = field ++ ":" ++ blanks ++ text) ∧
    (splitFieldError message = some (field, text) ↔
      fieldError.captures? (Text.trimChars message.toList) = some [field.toList, text.toList]) ∧
    (splitFieldError message = some (field, text) →
      splitFieldError (field ++ ": " ++ text) = some (field, text)) ∧
    ∀ status reason body, ofResponse status reason body = .validation field text →
      splitFieldError (ofResponse status reason body).message = some (field, text) := by
  refine ⟨⟨fun h => ?_, ?_⟩, ?_, splitFieldError_again, fun status reason body h => ?_⟩
  · obtain ⟨hcomplaint, blanks, hblanks, hcut⟩ := cut_of_splitFieldError h
    refine ⟨hcomplaint, String.ofList blanks, ?_, ?_⟩
    · simpa [Text.isAllBlank] using hblanks
    · rw [← String.toList_inj, Text.trim, String.toList_ofList, hcut]
      simp
  · rintro ⟨hcomplaint, blanks, hblanks, hcut⟩
    apply splitFieldError_of_cut hcomplaint (List.all_eq_true.mp hblanks)
    rw [← String.toList_inj, Text.trim, String.toList_ofList] at hcut
    rw [hcut]
    simp
  · rw [captures?_fieldError]
    cases splitFieldError message with
    | none => simp
    | some p => simp [Prod.ext_iff, String.toList_inj]
  · rcases ofResponse_cases status reason body with ⟨-, f, t, hsplit, hrefusal⟩ | ⟨-, hrefusal⟩
    · rw [h] at hrefusal ⊢
      cases hrefusal
      exact splitFieldError_again hsplit
    · rw [h] at hrefusal
      cases hrefusal

end ApiError

end FunctionConsole
