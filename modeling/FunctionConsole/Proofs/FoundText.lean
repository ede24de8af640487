import FunctionConsole.Proofs.PaletteResults

/-!
# Text that appears in an entry

The palette compares in lower case: an entry is found if the query in lower case is a piece of its
label or of its description in lower case. One would think that a text which appears in an entry
finds it. But lower case is not made letter by letter. A capital sigma becomes a final one where it
ends a word, and where a word ends is decided by what stands around it, which is not the same in a
query as in an entry: `ΟΔΥΣ` ends in a final sigma, and in `ΟΔΥΣΣΕΑΣ` the same letters do not.

`lowerWithin` is the lower case of a piece in its surroundings. It differs from the lower case of
the piece alone in nothing but the form of capital sigmas (`lowerWithin_eq_iff`), so a text finds
the entries in which its sigmas keep their form (`KeepsSigmas`). `text_finds_entries` says this, and
that the texts which find every entry they appear in are those whose sigmas are settled by the text
itself (`SettlesSigmas`), above all those without a capital sigma.
-/

namespace FunctionConsole

namespace Text

-- ==================================================== lower case in context

/-- The lower-case form of a character behind others, the nearest first, and in front of others. -/
def lowerAt (before : List Char) (c : Char) (after : List Char) : List Char :=
  if c = capitalSigma then
    (if nextIsCased before && !nextIsCased after then ['ς'] else ['σ'])
  else lowerChar c

/-- The lower-case form of a piece of a text, with what stands before it, the nearest first, and
after it. -/
def lowerWithin (before after : List Char) : List Char → List Char
  | [] => []
  | c :: rest => lowerAt before c (rest ++ after) ++ lowerWithin (c :: before) after rest

/-- The lower case of a text is that of its pieces, each in its surroundings. -/
theorem lowerFrom_append (before l after : List Char) :
    lowerFrom before (l ++ after) =
      lowerWithin before after l ++ lowerFrom (l.reverse ++ before) after := by
  induction l generalizing before with
  | nil => rfl
  | cons c rest ih =>
      show lowerAt before c (rest ++ after) ++ lowerFrom (c :: before) (rest ++ after) = _
      rw [ih, lowerWithin, List.append_assoc, List.reverse_cons, List.append_assoc]
      rfl

theorem lowerFrom_eq (before l : List Char) : lowerFrom before l = lowerWithin before [] l := by
  have happend := lowerFrom_append before l []
  rw [List.append_nil] at happend
  exact happend.trans (List.append_nil _)

theorem lowerWithin_infix (before l after : List Char) :
    lowerWithin before.reverse after l <:+: lower (before ++ l ++ after) := by
  rw [lower, List.append_assoc, lowerFrom_append, lowerFrom_append, List.append_nil]
  exact ⟨_, _, List.append_assoc _ _ _⟩

-- ==================================================== sigmas

/-- Between these characters a word ends: a cased letter comes before, and none comes after. -/
def EndsWord (before after : List Char) : Prop :=
  nextIsCased before.reverse = true ∧ nextIsCased after = false

theorem lowerAt_sigma (before after : List Char) :
    lowerAt before.reverse capitalSigma after = ['ς'] ∧ EndsWord before after ∨
      lowerAt before.reverse capitalSigma after = ['σ'] ∧ ¬ EndsWord before after := by
  unfold lowerAt EndsWord
  rw [if_pos rfl]
  cases nextIsCased before.reverse <;> cases nextIsCased after <;> simp

/-- A character has the same form in two surroundings, unless it is a capital sigma and ends a word
in one of them only. -/
theorem lowerAt_eq_iff {c : Char} {before before' after after' : List Char} :
    lowerAt before.reverse c after = lowerAt before'.reverse c after' ↔
      (c = capitalSigma → (EndsWord before after ↔ EndsWord before' after')) := by
  by_cases hc : c = capitalSigma
  · subst hc
    rcases lowerAt_sigma before after with ⟨h, hends⟩ | ⟨h, hends⟩ <;>
      rcases lowerAt_sigma before' after' with ⟨h', hends'⟩ | ⟨h', hends'⟩ <;>
      rw [h, h'] <;> simp [hends, hends']
  · rw [lowerAt, if_neg hc, lowerAt, if_neg hc]
    exact iff_of_true rfl fun h => absurd h hc

theorem length_lowerAt (c : Char) (before before' after after' : List Char) :
    (lowerAt before c after).length = (lowerAt before' c after').length := by
  unfold lowerAt
  split
  · split <;> split <;> rfl
  · rfl

theorem length_lowerWithin (before before' after after' l : List Char) :
    (lowerWithin before after l).length = (lowerWithin before' after' l).length := by
  induction l generalizing before before' with
  | nil => rfl
  | cons c rest ih =>
      rw [lowerWithin, lowerWithin, List.length_append, List.length_append,
        ih (c :: before) (c :: before'), length_lowerAt c before before']

/-- A piece has the same lower case in two surroundings exactly if the same of its capital sigmas
end a word in both. -/
theorem lowerWithin_eq_iff {before before' after after' l : List Char} :
    lowerWithin before.reverse after l = lowerWithin before'.reverse after' l ↔
      ∀ u v, l = u ++ capitalSigma :: v →
        (EndsWord (before ++ u) (v ++ after) ↔ EndsWord (before' ++ u) (v ++ after')) := by
  induction l generalizing before before' with
  | nil => exact iff_of_true rfl fun u v h => absurd h (by simp)
  | cons c rest ih =>
      have hsnoc (front : List Char) : c :: front.reverse = (front ++ [c]).reverse := by simp
      have hsplit : lowerWithin before.reverse after (c :: rest) =
          lowerWithin before'.reverse after' (c :: rest) ↔
          lowerAt before.reverse c (rest ++ after) = lowerAt before'.reverse c (rest ++ after') ∧
            lowerWithin (before ++ [c]).reverse after rest =
              lowerWithin (before' ++ [c]).reverse after' rest := by
        rw [lowerWithin, lowerWithin, hsnoc, hsnoc]
        constructor
        · intro h
          exact List.append_inj h (length_lowerAt c _ _ _ _)
        · intro ⟨hfirst, hrest⟩
          rw [hfirst, hrest]
      rw [hsplit, lowerAt_eq_iff, ih]
      constructor
      · intro ⟨hfirst, hrest⟩ u v hcut
        -- the sigma is the first character, or it is in the rest
        cases u with
        | nil =>
            obtain ⟨hc, hv⟩ := List.cons_eq_cons.mp hcut
            rw [List.append_nil, List.append_nil, ← hv]
            exact hfirst hc
        | cons d u =>
            obtain ⟨hd, hcut⟩ := List.cons_eq_cons.mp hcut
            have h := hrest u v hcut
            rwa [List.append_assoc, List.append_assoc, hd] at h
      · intro h
        refine ⟨fun hc => ?_, fun u v hcut => ?_⟩
        · have hfirst := h [] rest (by rw [hc]; rfl)
          rwa [List.append_nil, List.append_nil] at hfirst
        · rw [List.append_assoc, List.append_assoc]
          exact h (c :: u) v (by rw [hcut]; rfl)

/-- A text has its capital sigmas in the same forms in these surroundings as alone. -/
def KeepsSigmas (before after l : List Char) : Prop :=
  ∀ u v, l = u ++ capitalSigma :: v → (EndsWord (before ++ u) (v ++ after) ↔ EndsWord u v)

theorem lowerWithin_eq_lower_iff {before after l : List Char} :
    lowerWithin before.reverse after l = lower l ↔ KeepsSigmas before after l := by
  have h : lowerWithin before.reverse after l = lowerWithin ([] : List Char).reverse [] l ↔ _ :=
    lowerWithin_eq_iff
  simp only [List.reverse_nil, List.nil_append, List.append_nil] at h
  rw [lower, lowerFrom_eq]
  exact h

-- ==================================================== letters of either case

theorem toLower_of_ge {c : Char} (h : 128 ≤ c.toNat) : c.toLower = c := by
  unfold Char.toLower
  refine dif_neg fun hupper => ?_
  have hle : c.toNat ≤ 90 := UInt32.le_iff_toNat_le.mp hupper.2
  omega

/-- Lower case hangs on the same things for two characters. -/
def Alike (c d : Char) : Prop :=
  (c = capitalSigma ↔ d = capitalSigma) ∧ lowerChar c = lowerChar d ∧ isCased c = isCased d ∧
    isCaseIgnorable c = isCaseIgnorable d

instance (c d : Char) : Decidable (Alike c d) := inferInstanceAs (Decidable (_ ∧ _))

theorem alike_toLower_of_ascii : ∀ n < 128, Alike (Char.ofNat n).toLower (Char.ofNat n) := by
  decide +kernel

/-- The case of an ASCII letter makes no difference to anything that lower case hangs on. -/
theorem alike_toLower (c : Char) : Alike c.toLower c := by
  by_cases h : c.toNat < 128
  · rw [← Char.ofNat_toNat c]
    exact alike_toLower_of_ascii c.toNat h
  · rw [toLower_of_ge (by omega)]
    exact ⟨Iff.rfl, rfl, rfl, rfl⟩

theorem nextIsCased_map (l : List Char) : nextIsCased (l.map Char.toLower) = nextIsCased l := by
  induction l with
  | nil => rfl
  | cons c rest ih =>
      obtain ⟨-, -, hcased, hignorable⟩ := alike_toLower c
      rw [List.map_cons, nextIsCased, nextIsCased, ih, hcased, hignorable]

theorem lowerAt_map (before : List Char) (c : Char) (after : List Char) :
    lowerAt (before.map Char.toLower) c.toLower (after.map Char.toLower) =
      lowerAt before c after := by
  obtain ⟨hsigma, hchar, -, -⟩ := alike_toLower c
  unfold lowerAt
  rw [nextIsCased_map, nextIsCased_map, hchar]
  by_cases hc : c = capitalSigma
  · rw [if_pos hc, if_pos (hsigma.mpr hc)]
  · rw [if_neg hc, if_neg (mt hsigma.mp hc)]

theorem lowerWithin_map (before after l : List Char) :
    lowerWithin (before.map Char.toLower) (after.map Char.toLower) (l.map Char.toLower) =
      lowerWithin before after l := by
  induction l generalizing before with
  | nil => rfl
  | cons c rest ih =>
      rw [List.map_cons, lowerWithin, lowerWithin, ← List.map_append, lowerAt_map, ← List.map_cons,
        ih]

/-- Texts that differ in the case of ASCII letters have the same lower case. -/
theorem lowerWithin_congr {before after l l' : List Char}
    (h : l.map Char.toLower = l'.map Char.toLower) :
    lowerWithin before after l = lowerWithin before after l' := by
  rw [← lowerWithin_map, h, lowerWithin_map]

-- ==================================================== settled sigmas

/-- Whether a text has a character that is not passed over when looking for a cased letter. -/
def Carries (l : List Char) : Prop := ∃ c ∈ l, isCaseIgnorable c = false

theorem nextIsCased_append_of_carries {l : List Char} (h : Carries l) (l' : List Char) :
    nextIsCased (l ++ l') = nextIsCased l := by
  induction l with
  | nil => exact absurd h (by simp [Carries])
  | cons c rest ih =>
      rw [List.cons_append, nextIsCased, nextIsCased]
      by_cases hc : isCaseIgnorable c = true
      · rw [if_pos hc, if_pos hc]
        apply ih
        obtain ⟨d, hd, hignorable⟩ := h
        rcases List.mem_cons.mp hd with rfl | hd
        · rw [hc] at hignorable
          cases hignorable
        · exact ⟨d, hd, hignorable⟩
      · rw [if_neg hc, if_neg hc]

theorem nextIsCased_append_of_not_carries {l : List Char} (h : ¬ Carries l) (l' : List Char) :
    nextIsCased (l ++ l') = nextIsCased l' := by
  induction l with
  | nil => rfl
  | cons c rest ih =>
      have hc : isCaseIgnorable c = true := by
        by_contra hc
        exact h ⟨c, List.mem_cons_self, Bool.eq_false_iff.mpr hc⟩
      rw [List.cons_append, nextIsCased, if_pos hc]
      exact ih fun ⟨d, hd, hignorable⟩ => h ⟨d, List.mem_cons_of_mem _ hd, hignorable⟩

theorem nextIsCased_of_not_carries {l : List Char} (h : ¬ Carries l) : nextIsCased l = false := by
  have happend := nextIsCased_append_of_not_carries h []
  rwa [List.append_nil] at happend

theorem carries_of_nextIsCased {l : List Char} (h : nextIsCased l = true) : Carries l := by
  by_contra hnone
  rw [nextIsCased_of_not_carries hnone] at h
  cases h

theorem carries_reverse {l : List Char} : Carries l.reverse ↔ Carries l := by
  simp only [Carries, List.mem_reverse]

/-- Every capital sigma of a text is settled by the text: a cased letter comes next, so that it ends
no word; or the text says what comes before it, and this is no cased letter, or it is one and the
text says what comes next, too. -/
def SettlesSigmas (l : List Char) : Prop :=
  ∀ u v, l = u ++ capitalSigma :: v →
    nextIsCased v = true ∨ Carries u ∧ (nextIsCased u.reverse = false ∨ Carries v)

/-- Sigmas that are settled keep their form in all surroundings. -/
theorem SettlesSigmas.keeps {l : List Char} (h : SettlesSigmas l) (before after : List Char) :
    KeepsSigmas before after l := by
  intro u v hcut
  unfold EndsWord
  rw [List.reverse_append]
  rcases h u v hcut with hnext | ⟨hu, hprevious | hv⟩
  · rw [nextIsCased_append_of_carries (carries_of_nextIsCased hnext), hnext]
    simp
  · rw [nextIsCased_append_of_carries (carries_reverse.mpr hu), hprevious]
    simp
  · rw [nextIsCased_append_of_carries (carries_reverse.mpr hu), nextIsCased_append_of_carries hv]

/-- A sigma that is not settled takes another form behind a letter or in front of one. -/
theorem not_keeps_of_not_settles {l : List Char} (h : ¬ SettlesSigmas l) {x y : Char}
    (hx : nextIsCased [x] = true) (hy : nextIsCased [y] = true) :
    ¬ KeepsSigmas [x] [] l ∨ ¬ KeepsSigmas [] [y] l := by
  unfold SettlesSigmas at h
  push Not at h
  obtain ⟨u, v, hcut, hnext, hopen⟩ := h
  rw [ne_eq, Bool.not_eq_true] at hnext
  by_cases hu : Carries u
  · -- the text ends before it says whether the word does
    obtain ⟨hprevious, hv⟩ := hopen hu
    rw [ne_eq, Bool.not_eq_false] at hprevious
    refine .inr fun hkeeps => ?_
    have hends : EndsWord u v := ⟨hprevious, hnext⟩
    have hafter := ((hkeeps u v hcut).mpr hends).2
    rw [nextIsCased_append_of_not_carries hv, hy] at hafter
    cases hafter
  · -- the text does not say whether there is a word before it
    refine .inl fun hkeeps => ?_
    have hu' : ¬ Carries u.reverse := mt carries_reverse.mp hu
    have hends : EndsWord ([x] ++ u) (v ++ []) := by
      refine ⟨?_, by rw [List.append_nil]; exact hnext⟩
      rw [List.reverse_append, nextIsCased_append_of_not_carries hu']
      exact hx
    have hbefore := ((hkeeps u v hcut).mp hends).1
    rw [nextIsCased_of_not_carries hu'] at hbefore
    cases hbefore

theorem settlesSigmas_of_not_mem {l : List Char} (h : capitalSigma ∉ l) : SettlesSigmas l := by
  intro u v hcut
  apply absurd _ h
  rw [hcut]
  exact List.mem_append_right _ List.mem_cons_self

-- ==================================================== a letter beside a text

/-- There is a letter other than a given character that is its own lower case everywhere. -/
theorem exists_letter (o : Option Char) :
    ∃ x : Char, nextIsCased [x] = true ∧ (∀ before after, lowerAt before x after = [x]) ∧
      o ≠ some x := by
  by_cases h : o = some 'a'
  · refine ⟨'b', by decide, fun _ _ => rfl, ?_⟩
    rw [h]
    decide
  · exact ⟨'a', by decide, fun _ _ => rfl, h⟩

theorem lower_cons {x : Char} (h : ∀ before after, lowerAt before x after = [x]) (l : List Char) :
    lower (x :: l) = x :: lowerWithin [x] [] l := by
  rw [lower, lowerFrom_eq, lowerWithin, h]
  rfl

theorem lower_concat {y : Char} (h : ∀ before after, lowerAt before y after = [y])
    (l : List Char) : lower (l ++ [y]) = lowerWithin [] [y] l ++ [y] := by
  rw [lower, lowerFrom_append, lowerFrom_eq, lowerWithin, h]
  rfl

/-- A list that does not begin with an element is no piece of another as long as itself with the
element put in front. -/
theorem not_infix_cons {n w : List Char} {x : Char} (hlength : n.length = w.length) (hne : w ≠ n)
    (hhead : n.head? ≠ some x) : ¬ n <:+: x :: w := by
  intro h
  rcases List.infix_cons_iff.mp h with hfront | hpart
  · cases n with
    | nil => exact hne (List.length_eq_zero_iff.mp hlength.symm)
    | cons c rest =>
        obtain ⟨hc, -⟩ := List.cons_prefix_cons.mp hfront
        exact hhead (congrArg some hc)
  · exact hne (hpart.eq_of_length hlength).symm

theorem not_infix_concat {n w : List Char} {y : Char} (hlength : n.length = w.length) (hne : w ≠ n)
    (hlast : n.getLast? ≠ some y) : ¬ n <:+: w ++ [y] := by
  rw [← List.reverse_infix, List.reverse_concat]
  apply not_infix_cons
  · rw [List.length_reverse, List.length_reverse, hlength]
  · exact mt List.reverse_inj.mp hne
  · rwa [List.head?_reverse]

/-- The lower case of a text with an unsettled sigma is no piece of the lower case of some longer
text. -/
theorem exists_not_infix {l : List Char} (h : ¬ SettlesSigmas l) :
    ∃ before after, ¬ lower l <:+: lower (before ++ l ++ after) := by
  -- the letter must not begin or end the text, which could be found one place further on then
  obtain ⟨x, hx, hxlower, hhead⟩ := exists_letter (lower l).head?
  obtain ⟨y, hy, hylower, hlast⟩ := exists_letter (lower l).getLast?
  have hlength (before after : List Char) :
      (lower l).length = (lowerWithin before after l).length := by
    rw [lower, lowerFrom_eq]
    exact length_lowerWithin _ _ _ _ _
  rcases not_keeps_of_not_settles h hx hy with hbefore | hafter
  · refine ⟨[x], [], ?_⟩
    have hne : lowerWithin [x].reverse [] l ≠ lower l := mt lowerWithin_eq_lower_iff.mp hbefore
    rw [List.append_nil, List.singleton_append, lower_cons hxlower]
    exact not_infix_cons (hlength _ _) hne hhead
  · refine ⟨[], [y], ?_⟩
    have hne : lowerWithin [].reverse [y] l ≠ lower l := mt lowerWithin_eq_lower_iff.mp hafter
    rw [List.nil_append, lower_concat hylower]
    exact not_infix_concat (hlength _ _) hne hlast

end Text

-- ==================================================== entries

namespace PaletteItem

open Text (trimChars lowerWithin lowerWithin_infix lowerWithin_congr KeepsSigmas SettlesSigmas)

/-- A text appears in the label or in the description of an entry between these characters, as it is
or with ASCII letters of it in the other case. -/
def ShowsAt (item : PaletteItem) (before text after : List Char) : Prop :=
  ∃ shown : List Char, shown.map Char.toLower = text.map Char.toLower ∧
    (item.label.toList = before ++ shown ++ after ∨
      item.description.toList = before ++ shown ++ after)

variable {item : PaletteItem} {before after : List Char} {query : String}

/-- A text finds the entries in which it keeps the forms of its sigmas. -/
theorem found_of_showsAt (hshows : item.ShowsAt before (trimChars query.toList) after)
    (hkeeps : KeepsSigmas before after (trimChars query.toList)) : item.Found query := by
  obtain ⟨shown, halike, hpiece⟩ := hshows
  have hneedle : lowerWithin before.reverse after shown = needle query :=
    (lowerWithin_congr halike).trans (Text.lowerWithin_eq_lower_iff.mpr hkeeps)
  have hpart := lowerWithin_infix before shown after
  rw [hneedle] at hpart
  rcases hpiece with hlabel | hdescription
  · refine .inl ?_
    rw [hlabel]
    exact hpart
  · refine .inr ?_
    rw [hdescription]
    exact hpart

theorem exists_not_found (h : ¬ SettlesSigmas (trimChars query.toList)) :
    ∃ (item : PaletteItem) (before after : List Char),
      item.ShowsAt before (trimChars query.toList) after ∧ ¬ item.Found query := by
  obtain ⟨before, after, hnot⟩ := Text.exists_not_infix h
  have hne : needle query ≠ [] := by
    intro hempty
    apply hnot
    show needle query <:+: _
    rw [hempty]
    exact List.nil_infix
  let label := String.ofList (before ++ trimChars query.toList ++ after)
  have hlabel : label.toList = before ++ trimChars query.toList ++ after := String.toList_ofList
  refine ⟨⟨label, "", .functions, .navigation, false⟩, before, after, ⟨_, rfl, .inl hlabel⟩, ?_⟩
  intro hfound
  rcases hfound with hfound | hfound
  · rw [hlabel] at hfound
    exact hnot hfound
  · exact hne (List.infix_nil.mp hfound)

/-- A text finds every entry that it appears in, as it is or with ASCII letters in the other case,
if its capital sigmas are final sigmas in the entry exactly where they are in the text alone. The
texts that find whatever they appear in are those that settle their sigmas themselves; all texts
without a capital sigma are among them. -/
theorem text_finds_entries (query : String) :
    (∀ (items : List PaletteItem) (i : Nat) (item : PaletteItem) (before after : List Char),
      items[i]? = some item → item.ShowsAt before (trimChars query.toList) after →
        KeepsSigmas before after (trimChars query.toList) → i ∈ filter items query) ∧
    ((∀ (items : List PaletteItem) (i : Nat) (item : PaletteItem) (before after : List Char),
      items[i]? = some item → item.ShowsAt before (trimChars query.toList) after →
        i ∈ filter items query) ↔ SettlesSigmas (trimChars query.toList)) ∧
    (Text.capitalSigma ∉ trimChars query.toList → SettlesSigmas (trimChars query.toList)) := by
  refine ⟨fun items i item before after hitem hshows hkeeps => ?_, ⟨fun hall => ?_, fun h => ?_⟩,
    Text.settlesSigmas_of_not_mem⟩
  · exact mem_filter_iff.mpr ⟨item, hitem, found_of_showsAt hshows hkeeps⟩
  · by_contra h
    obtain ⟨item, before, after, hshows, hnot⟩ := exists_not_found h
    obtain ⟨item', hitem', hfound⟩ :=
      mem_filter_iff.mp (hall [item] 0 item before after rfl hshows)
    rw [← Option.some.inj hitem'] at hfound
    exact hnot hfound
  · intro items i item before after hitem hshows
    exact mem_filter_iff.mpr ⟨item, hitem, found_of_showsAt hshows (h.keeps before after)⟩

/-- A word that ends in a sigma finds the entries that show it as a word, and what has no sigma is
found in any case. -/
theorem whole_word_is_found :
    let items := ofFunctions [⟨"f", "ΟΔΟΣ", none, false, ⟨1, ""⟩, .ofList [], none, none⟩]
    (3 ∈ filter items "ΟΔΟΣ" ∧ ¬ SettlesSigmas (trimChars "ΟΔΟΣ".toList)) ∧
      2 ∈ filter items " TO cO " := by
  intro items
  have hword : KeepsSigmas [] " → Versions".toList (trimChars "ΟΔΟΣ".toList) :=
    Text.lowerWithin_eq_lower_iff.mp (by decide +kernel)
  have hopen : ¬ KeepsSigmas [] "a".toList (trimChars "ΟΔΟΣ".toList) :=
    mt Text.lowerWithin_eq_lower_iff.mpr (by decide +kernel)
  refine ⟨⟨?_, fun h => hopen (h.keeps _ _)⟩, ?_⟩
  · apply (text_finds_entries "ΟΔΟΣ").1 items 3 _ [] _ rfl _ hword
    exact ⟨"ΟΔΟΣ".toList, by decide +kernel, .inl (by decide +kernel)⟩
  · have hsettled := (text_finds_entries " TO cO ").2.2 (by decide +kernel)
    apply (text_finds_entries " TO cO ").2.1.mpr hsettled items 2 _ "Go ".toList "de".toList rfl
    exact ⟨"to Co".toList, by decide +kernel, .inr (by decide +kernel)⟩

/-- The first letters of a name do not find it if the last of them is a sigma. -/
theorem stem_with_sigma_is_not_found :
    let items := ofFunctions [⟨"f", "ΟΔΥΣΣΕΑΣ", none, false, ⟨1, ""⟩, .ofList [], none, none⟩]
    (∃ item, items[2]? = some item ∧
      item.ShowsAt [] (trimChars "ΟΔΥΣ".toList) "ΣΕΑΣ".toList ∧
      trimChars "ΟΔΥΣ".toList = "ΟΔΥΣ".toList ∧ 2 ∉ filter items "ΟΔΥΣ") ∧
    ¬ ∀ (items : List PaletteItem) (query : String) (i : Nat) (item : PaletteItem)
        (before after : List Char), trimChars query.toList ≠ [] → items[i]? = some item →
          item.ShowsAt before (trimChars query.toList) after → i ∈ filter items query := by
  intro items
  have hitem : items[2]? = some ⟨"ΟΔΥΣΣΕΑΣ", "Go to Code", .code "f", .function, false⟩ := rfl
  have hshows : ShowsAt ⟨"ΟΔΥΣΣΕΑΣ", "Go to Code", .code "f", .function, false⟩ []
      (trimChars "ΟΔΥΣ".toList) "ΣΕΑΣ".toList :=
    ⟨"ΟΔΥΣ".toList, by decide +kernel, .inl (by decide +kernel)⟩
  have hnot : 2 ∉ filter items "ΟΔΥΣ" := by decide +kernel
  refine ⟨⟨_, hitem, hshows, by decide +kernel, hnot⟩, fun hall => ?_⟩
  exact hnot (hall items "ΟΔΥΣ" 2 _ [] _ (by decide +kernel) hitem hshows)

end PaletteItem

end FunctionConsole
