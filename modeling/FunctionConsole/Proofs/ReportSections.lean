import FunctionConsole.Proofs.Markers
import FunctionConsole.Proofs.TextEnds

/-!
# Sections of a report

A report has three sections and a message as many pieces as it has markers, and one more. The
sections are the first three pieces, each without what does not belong to it at its ends: blanks
around prose, blank lines around a snippet.

`sections_are_recovered` says that sections which were written into a message, with one marker
before the snippet and one behind it, are found again. `report_shows_three_pieces` says of any
message what its report shows: nothing but blanks is lost of the first three pieces, and all of the
others, so that a report shows all of its message exactly if only blanks come after the third
marker.
-/

namespace FunctionConsole.ErrorReport

open Text (isBlank isAllBlank dropAroundWhile)

-- ==================================================== vocabulary

/-- A text that is a section of prose as it stands. -/
structure Prose (s : String) : Prop where
  unmarked : Unmarked s.toList
  visible : isAllBlank s = false
  first : ∀ c ∈ s.toList.head?, isBlank c = false
  last : ∀ c ∈ s.toList.getLast?, isBlank c = false

/-- A text that is a snippet as it stands; its first line may be indented. -/
structure Snippet (s : String) : Prop where
  unmarked : Unmarked s.toList
  visible : isAllBlank s = false
  first : s.toList.head? ≠ some '\n'
  last : s.toList.getLast? ≠ some '\n'

/-- Blank lines. -/
def blankLines (n : Nat) : String := String.ofList (List.replicate n '\n')

/-- The characters of a text that are not blank. -/
def ink (l : List Char) : List Char := l.filter fun c => !isBlank c

/-- The sections of a report, one after the other. -/
def text (r : ErrorReport) : List Char :=
  (r.description.getD "").toList ++ (r.code.getD "").toList ++ (r.tip.getD "").toList

-- ==================================================== blanks

variable {a l : List Char} {s : String}

theorem unblank_of_marker {m : List Char} (hm : m ∈ markers) : ∀ c ∈ m, isBlank c = false := by
  intro c hc
  have hnone : m.any isBlank = false := by
    rcases List.mem_pair.mp hm with rfl | rfl
    · rfl
    · rfl
  exact Bool.eq_false_iff.mpr (List.any_eq_false.mp hnone c hc)

theorem not_mem_marker_of_blank {c : Char} (h : isBlank c = true) : ∀ m ∈ markers, c ∉ m := by
  intro m hm hmem
  rw [unblank_of_marker hm c hmem] at h
  cases h

theorem unblank_of_eq {o : Option Char} (c : Char) (hc : isBlank c = false) (ho : o = some c) :
    ∀ x ∈ o, isBlank x = false := by
  intro x hx
  rw [ho] at hx
  rw [← Option.some.inj hx]
  exact hc

theorem unmarked_of_blank (h : ∀ c ∈ l, isBlank c = true) : Unmarked l := by
  intro m hm hpart
  obtain ⟨tail, rfl, -⟩ := bracket_of_marker hm
  have hbracket : isBlank '[' = true := h '[' (hpart.subset List.mem_cons_self)
  exact absurd hbracket (by decide)

/-- Blanks around a text bring no marker into it. -/
theorem Unmarked.between {before after : List Char} (ha : Unmarked a)
    (hbefore : ∀ c ∈ before, isBlank c = true) (hafter : ∀ c ∈ after, isBlank c = true) :
    Unmarked (before ++ a ++ after) := by
  have hfront : Unmarked (before ++ a) := by
    apply (unmarked_of_blank hbefore).append ha
    exact .inl fun c hc => not_mem_marker_of_blank (hbefore c (List.mem_of_mem_getLast? hc))
  apply hfront.append (unmarked_of_blank hafter)
  exact .inr fun c hc => not_mem_marker_of_blank (hafter c (List.mem_of_mem_head? hc))

theorem blank_of_mem_blankLines {n : Nat} : ∀ c ∈ (blankLines n).toList, c = '\n' := by
  intro c hc
  rw [blankLines, String.toList_ofList] at hc
  exact List.eq_of_mem_replicate hc

theorem isBlank_of_isAllBlank (h : isAllBlank s = true) : ∀ c ∈ s.toList, isBlank c = true :=
  List.all_eq_true.mp h

-- ==================================================== sections that are recovered

theorem proseSection?_of_blank (h : ∀ c ∈ l, isBlank c = true) : proseSection? l = none := by
  have hall : l.all isBlank = true := List.all_eq_true.mpr h
  rw [proseSection?, Text.trimChars_eq_nil_iff.mpr hall]
  rfl

theorem Prose.section {before after : List Char} (h : Prose s)
    (hbefore : ∀ c ∈ before, isBlank c = true) (hafter : ∀ c ∈ after, isBlank c = true) :
    proseSection? (before ++ s.toList ++ after) = some s := by
  rw [proseSection?, Text.trimChars,
    Text.dropAroundWhile_between hbefore hafter h.first h.last, String.ofList_toList,
    Text.nonBlank?, h.visible]
  rfl

theorem unbroken_of_ne {o : Option Char} (h : o ≠ some '\n') : ∀ c ∈ o, (c == '\n') = false := by
  intro c hc
  rw [beq_eq_false_iff_ne]
  rintro rfl
  exact h hc

theorem Snippet.section {above below : Nat} (h : Snippet s) :
    codeSection? ((blankLines above).toList ++ s.toList ++ (blankLines below).toList) =
      some s := by
  have hbreak : ∀ n, ∀ c ∈ (blankLines n).toList, (c == '\n') = true := fun n c hc =>
    beq_iff_eq.mpr (blank_of_mem_blankLines c hc)
  rw [codeSection?, Text.dropAroundWhile_between (hbreak above) (hbreak below)
    (unbroken_of_ne h.first) (unbroken_of_ne h.last), String.ofList_toList, Text.nonBlank?,
    h.visible]
  rfl

section

variable {prose : Option String} {before after : List Char}

/-- A piece of prose that may be missing, with blanks around it: no marker is in it, and the prose
is found again, or found to be missing. -/
theorem prose_piece (h : ∀ s ∈ prose, Prose s) (hbefore : ∀ c ∈ before, isBlank c = true)
    (hafter : ∀ c ∈ after, isBlank c = true) :
    Unmarked (before ++ (prose.getD "").toList ++ after) ∧
      proseSection? (before ++ (prose.getD "").toList ++ after) = prose := by
  cases prose with
  | none =>
      refine ⟨unmarked_nil.between hbefore hafter, proseSection?_of_blank fun c hc => ?_⟩
      rcases List.mem_append.mp hc with hc | hc
      · rcases List.mem_append.mp hc with hc | hc
        · exact hbefore c hc
        · cases hc
      · exact hafter c hc
  | some s =>
      have hs : Prose s := h s rfl
      exact ⟨hs.unmarked.between hbefore hafter, hs.section hbefore hafter⟩

end

theorem parse_of_three {message : String} {a b c : List Char} (h : Cut message.toList [a, b, c]) :
    parse message =
      { description := proseSection? a, code := codeSection? b, tip := proseSection? c } := by
  rw [parse, cut_iff.mp h]
  rfl

theorem parse_of_one {message : String} {a : List Char} (h : Cut message.toList [a]) :
    parse message = { description := proseSection? a, code := none, tip := none } := by
  rw [parse, cut_iff.mp h]
  rfl

/-- Sections that were written into a message are found again: a description, a snippet between its
markers, with any number of blank lines around it, and a tip. A description or a tip that was left
out is missing in the report, and so are snippet and tip where only the description was written. The
blanks between a section and a marker do not matter. -/
theorem sections_are_recovered {description tip : Option String} {code : String}
    (hdescription : ∀ s ∈ description, Prose s) (hcode : Snippet code) (htip : ∀ s ∈ tip, Prose s)
    {gap gap' : String} (hgap : isAllBlank gap = true) (hgap' : isAllBlank gap' = true)
    (above below : Nat) :
    parse (description.getD "" ++ gap ++ "[CODE]" ++ blankLines above ++ code ++
        blankLines below ++ "[/CODE]" ++ gap' ++ tip.getD "") =
      { description, code := some code, tip } ∧
    parse (description.getD "" ++ gap) = { description, code := none, tip := none } := by
  have hnone : ∀ c ∈ ([] : List Char), isBlank c = true := fun c hc => by cases hc
  have hlines : ∀ n, ∀ c ∈ (blankLines n).toList, isBlank c = true := by
    intro n c hc
    rw [blank_of_mem_blankLines c hc]
    rfl
  -- the three pieces
  obtain ⟨hfirst, hdescribed⟩ := prose_piece hdescription hnone (isBlank_of_isAllBlank hgap)
  rw [List.nil_append] at hfirst hdescribed
  have hsecond : Unmarked ((blankLines above).toList ++ code.toList ++ (blankLines below).toList) :=
    hcode.unmarked.between (hlines above) (hlines below)
  obtain ⟨hthird, htipped⟩ := prose_piece htip (isBlank_of_isAllBlank hgap') hnone
  rw [List.append_nil] at hthird htipped
  constructor
  · have hlist : (description.getD "" ++ gap ++ "[CODE]" ++ blankLines above ++ code ++
        blankLines below ++ "[/CODE]" ++ gap' ++ tip.getD "").toList =
        ((description.getD "").toList ++ gap.toList) ++ (opening ++
          (((blankLines above).toList ++ code.toList ++ (blankLines below).toList) ++ (closing ++
            (gap'.toList ++ (tip.getD "").toList)))) := by
      simp only [String.toList_append, List.append_assoc, toList_opening, toList_closing]
    have hcut := Cut.marker hfirst opening_mem (.marker hsecond closing_mem (.whole hthird))
    rw [← hlist] at hcut
    rw [parse_of_three hcut, hdescribed, hcode.section, htipped]
  · have hcut := Cut.whole hfirst
    rw [← String.toList_append] at hcut
    rw [parse_of_one hcut, String.toList_append, hdescribed]

/-- A description with brackets in it, and a snippet with an indented first line and a marker that
is not complete. -/
theorem indented_snippet_is_recovered :
    let description := "bad index [3]"
    let code := "  3 | x[CODE\n  4 | end"
    let tip := "Tip: check [x]"
    Prose description ∧ Snippet code ∧ Prose tip ∧
      parse "bad index [3]\n[CODE]\n\n  3 | x[CODE\n  4 | end\n[/CODE]\nTip: check [x]" =
        { description := some description, code := some code, tip := some tip } ∧
      parse "bad index [3]\n" =
        { description := some description, code := none, tip := none } := by
  intro description code tip
  have hdescription : Prose description :=
    ⟨by decide +kernel, by decide +kernel, unblank_of_eq 'b' rfl (by decide +kernel),
      unblank_of_eq ']' rfl (by decide +kernel)⟩
  have hcode : Snippet code :=
    ⟨by decide +kernel, by decide +kernel, by decide +kernel, by decide +kernel⟩
  have htip : Prose tip :=
    ⟨by decide +kernel, by decide +kernel, unblank_of_eq 'T' rfl (by decide +kernel),
      unblank_of_eq ']' rfl (by decide +kernel)⟩
  have hbreak : isAllBlank "\n" = true := by decide +kernel
  have hwritten : ∀ s ∈ some description, Prose s := fun s hs => Option.some.inj hs ▸ hdescription
  have hhinted : ∀ s ∈ some tip, Prose s := fun s hs => Option.some.inj hs ▸ htip
  obtain ⟨hfull, halone⟩ := sections_are_recovered hwritten hcode hhinted hbreak hbreak 2 1
  have hmessage : (some description).getD "" ++ "\n" ++ "[CODE]" ++ blankLines 2 ++ code ++
      blankLines 1 ++ "[/CODE]" ++ "\n" ++ (some tip).getD "" =
      "bad index [3]\n[CODE]\n\n  3 | x[CODE\n  4 | end\n[/CODE]\nTip: check [x]" := by
    decide +kernel
  have hbare : (some description).getD "" ++ "\n" = "bad index [3]\n" := by decide +kernel
  rw [hmessage] at hfull
  rw [hbare] at halone
  exact ⟨hdescription, hcode, htip, hfull, halone⟩

-- ==================================================== what a report shows

theorem ink_append (l l' : List Char) : ink (l ++ l') = ink l ++ ink l' := List.filter_append ..

theorem ink_ink (l : List Char) : ink (ink l) = ink l :=
  List.filter_eq_self.mpr fun _ hc => (List.mem_filter.mp hc).2

theorem ink_eq_nil : ink l = [] ↔ ∀ c ∈ l, isBlank c = true := by
  rw [ink, List.filter_eq_nil_iff]
  simp

theorem ink_nonBlank? (l : List Char) :
    ink ((Text.nonBlank? (String.ofList l)).getD "").toList = ink l := by
  rw [Text.nonBlank?, isAllBlank, String.toList_ofList]
  split
  · next hblank =>
      have hnone : ink l = [] := ink_eq_nil.mpr (List.all_eq_true.mp hblank)
      rw [hnone]
      rfl
  · rw [Option.getD_some, String.toList_ofList]

theorem ink_proseSection? (l : List Char) : ink ((proseSection? l).getD "").toList = ink l := by
  rw [proseSection?, ink_nonBlank?]
  exact Text.filter_dropAroundWhile (by simp) l

theorem ink_codeSection? (l : List Char) : ink ((codeSection? l).getD "").toList = ink l := by
  have hbreak : ∀ c, (c == '\n') = true → (!isBlank c) = false := by
    intro c hc
    rw [beq_iff_eq.mp hc]
    rfl
  rw [codeSection?, ink_nonBlank?]
  exact Text.filter_dropAroundWhile hbreak l

theorem ink_bind {f : List Char → Option String} (hf : ∀ l, ink ((f l).getD "").toList = ink l)
    (piece? : Option (List Char)) :
    ink ((piece?.bind f).getD "").toList = ink (piece?.getD []) := by
  cases piece? with
  | none => rfl
  | some l => exact hf l

theorem flatten_take_three (ps : List (List Char)) :
    (ps.take 3).flatten = ps[0]?.getD [] ++ ps[1]?.getD [] ++ ps[2]?.getD [] := by
  rcases ps with _ | ⟨a, _ | ⟨b, _ | ⟨c, ps⟩⟩⟩ <;> simp

/-- A report shows the first three pieces of its message, each in its section and with no character
left out that is not blank: what comes before the first marker, what comes up to the second, and
what comes up to the third. So the characters of the message that are neither blank nor part of a
marker are all in the report exactly if the pieces behind the third marker are blank. -/
theorem report_shows_three_pieces (message : String) :
    ∃ ps, Cut message.toList ps ∧ ps.flatten = outside message.toList ∧
      (ink ((parse message).description.getD "").toList = ink (ps[0]?.getD []) ∧
        ink ((parse message).code.getD "").toList = ink (ps[1]?.getD []) ∧
        ink ((parse message).tip.getD "").toList = ink (ps[2]?.getD [])) ∧
      ((ink (outside message.toList)).Sublist (parse message).text ↔
        ∀ p ∈ ps.drop 3, ∀ c ∈ p, isBlank c = true) := by
  have hdescription := ink_bind ink_proseSection? (pieces message.toList)[0]?
  have hcode := ink_bind ink_codeSection? (pieces message.toList)[1]?
  have htip := ink_bind ink_proseSection? (pieces message.toList)[2]?
  refine ⟨pieces message.toList, cut_pieces _, flatten_pieces _,
    ⟨hdescription, hcode, htip⟩, ?_⟩
  -- the report has the ink of the first three pieces, the message that of all
  have hshown : ink (parse message).text = ink ((pieces message.toList).take 3).flatten := by
    rw [text, ink_append, ink_append, flatten_take_three, ink_append, ink_append]
    exact congrArg₂ _ (congrArg₂ _ hdescription hcode) htip
  have hall : ink (outside message.toList) =
      ink (parse message).text ++ ink ((pieces message.toList).drop 3).flatten := by
    rw [hshown, ← ink_append, ← List.flatten_append, List.take_append_drop, flatten_pieces]
  have hblank : ink ((pieces message.toList).drop 3).flatten = [] ↔
      ∀ p ∈ (pieces message.toList).drop 3, ∀ c ∈ p, isBlank c = true := by
    rw [ink_eq_nil]
    constructor
    · exact fun h p hp c hc => h c (List.mem_flatten_of_mem hp hc)
    · intro h c hc
      obtain ⟨p, hp, hcp⟩ := List.mem_flatten.mp hc
      exact h p hp c hcp
  rw [← hblank, hall]
  constructor
  · intro hsub
    have hink : (ink (ink (parse message).text ++
        ink ((pieces message.toList).drop 3).flatten)).Sublist (ink (parse message).text) :=
      hsub.filter _
    have hlength := hink.length_le
    rw [ink_append, ink_ink, ink_ink, List.length_append] at hlength
    exact List.eq_nil_of_length_eq_zero (by omega)
  · intro hnone
    rw [hnone, List.append_nil]
    exact List.filter_sublist

/-- Behind the third marker a message goes on, and nothing of that is in its report. -/
theorem text_behind_third_marker_is_lost :
    let message := "a[CODE]b[/CODE]c[CODE]d"
    outside message.toList = ['a', 'b', 'c', 'd'] ∧
      parse message = ⟨some "a", some "b", some "c"⟩ ∧
      ¬ ∀ message, (ink (outside message.toList)).Sublist (parse message).text := by
  refine ⟨by decide +kernel, by decide +kernel, fun hall => ?_⟩
  exact absurd (hall "a[CODE]b[/CODE]c[CODE]d") (by decide +kernel)

end FunctionConsole.ErrorReport
