import FunctionConsole.Proofs.DrawnText

/-!
# Wrapping between words

Wrapping loses no word: what stands on the rows of a line are its glyphs but for blanks, and for
glyphs that are wider than a row (`Wrap.ink_rows`). A line with room for all its glyphs takes one
row (`Wrap.length_rows_of_fits`). Words with one blank between them are packed: each stands behind
the one before it if its last glyph still begins within the row, and else on a new row
(`Wrap.rows_of_words`); of words of narrow glyphs their lengths say how many rows that makes
(`Wrap.length_pack`).

A row is filled in steps: a word that has ended is settled on it, it is ended if it is full, and the
glyph is taken up (`Wrap.State.push_eq`).
-/

namespace FunctionConsole

theorem glyphsWidth_append (gs hs : List Glyph) :
    glyphsWidth (gs ++ hs) = glyphsWidth gs + glyphsWidth hs := by
  rw [glyphsWidth_eq_sum, List.map_append, List.sum_append, ← glyphsWidth_eq_sum,
    ← glyphsWidth_eq_sum]

namespace Wrap

/-- The glyphs that are not blank. -/
def ink (gs : List Glyph) : List Glyph := gs.filter fun g => !g.isBlank

theorem ink_append (gs hs : List Glyph) : ink (gs ++ hs) = ink gs ++ ink hs := List.filter_append ..

theorem ink_of_blanks {gs : List Glyph} (h : ∀ g ∈ gs, g.isBlank = true) : ink gs = [] :=
  List.filter_eq_nil_iff.mpr fun g hg => by simp [h g hg]

theorem ink_of_blank {g : Glyph} (h : g.isBlank = true) : ink [g] = [] :=
  ink_of_blanks fun g' hg' => by rwa [List.mem_singleton.mp hg']

-- ==================================================== the steps of a push

namespace State

/-- A word that has ended moves onto the row, and on an empty row also what is wider than a row. -/
def settle (max : Nat) (trim : Bool) (s : State) (g : Glyph) : State :=
  let overflow :=
    if trim then max < s.wordWidth + g.width || max < s.blanksWidth + g.width
    else max < s.wordWidth + s.blanksWidth + g.width
  if (s.inWord && g.isBlank) || (s.row.isEmpty && overflow) then s.commit trim else s

/-- No more than what there is goes onto the row. -/
def isFull (max : Nat) (s : State) (g : Glyph) : Bool :=
  max ≤ s.rowWidth || (0 < g.width && max ≤ s.rowWidth + s.blanksWidth + s.wordWidth)

/-- A glyph joins the blanks or the word. -/
def take (s : State) (g : Glyph) : State :=
  if g.isBlank then
    { s with blanks := s.blanks ++ [g], blanksWidth := s.blanksWidth + g.width, inWord := false }
  else { s with word := s.word ++ [g], wordWidth := s.wordWidth + g.width, inWord := true }

variable {max : Nat} {trim : Bool} {s : State} {g : Glyph}

theorem isFull_iff : s.isFull max g = true ↔
    max ≤ s.rowWidth ∨ 0 < g.width ∧ max ≤ s.rowWidth + s.blanksWidth + s.wordWidth := by
  rw [isFull, Bool.or_eq_true, Bool.and_eq_true, decide_eq_true_eq, decide_eq_true_eq,
    decide_eq_true_eq]

/-- Where a glyph still begins within the row, the row is not full. -/
theorem isFull_of_begins (hrow : s.rowWidth < max)
    (h : s.rowWidth + s.blanksWidth + s.wordWidth < max) : s.isFull max g = false := by
  rw [Bool.eq_false_iff, Ne, isFull_iff]
  omega

theorem settle_cases (max : Nat) (trim : Bool) (s : State) (g : Glyph) :
    s.settle max trim g = s.commit trim ∨ s.settle max trim g = s := by
  unfold settle
  extract_lets overflow
  split
  · exact .inl rfl
  · exact .inr rfl

theorem push_eq (h : g.width ≤ max) : s.push max trim g =
    let settled := s.settle max trim g
    let ended := if settled.isFull max g then settled.endRow max else settled
    if settled.isFull max g && g.isBlank && ended.blanks.isEmpty then ended else ended.take g := by
  rw [push]
  exact if_neg (Nat.not_lt.mpr h)

/-- As long as the row is not full it goes on. -/
theorem push_of_room (h : g.width ≤ max) (hroom : (s.settle max trim g).isFull max g = false) :
    s.push max trim g = (s.settle max trim g).take g := by
  rw [push_eq h]
  dsimp only
  rw [hroom]
  rfl

/-- A full row is ended, and a blank at its end is dropped. -/
theorem push_of_full (h : g.width ≤ max) (hfull : (s.settle max trim g).isFull max g = true) :
    s.push max trim g =
      let ended := (s.settle max trim g).endRow max
      if g.isBlank && ended.blanks.isEmpty then ended else ended.take g := by
  rw [push_eq h]
  dsimp only
  rw [hfull]
  rfl

-- ==================================================== no word is lost

/-- The words of the glyphs seen are on the rows and in the word that is pending, in their order;
what is kept apart is blank. -/
structure Keeps (s : State) (seen : List Glyph) : Prop where
  blanks : ∀ g ∈ s.blanks, g.isBlank = true
  ink : ink (s.rows.flatten ++ s.row ++ s.word) = ink seen

variable {seen : List Glyph}

theorem Keeps.commit (h : s.Keeps seen) (trim : Bool) : (s.commit trim).Keeps seen := by
  refine ⟨fun g hg => absurd hg List.not_mem_nil, ?_⟩
  rw [← h.ink]
  have hblanks : Wrap.ink (if !s.row.isEmpty || !trim then s.blanks else []) = [] := by
    split
    · exact ink_of_blanks h.blanks
    · rfl
  simp only [State.commit, ink_append, hblanks, List.append_nil, List.append_assoc]
  rfl

theorem mem_of_mem_dropFitting {room : Nat} {gs : List Glyph} {g : Glyph}
    (h : g ∈ dropFitting room gs) : g ∈ gs := by
  induction gs generalizing room with
  | nil => cases h
  | cons g' gs ih =>
      rw [dropFitting] at h
      split at h
      · exact h
      · exact List.mem_cons_of_mem _ (ih h)

theorem Keeps.endRow (h : s.Keeps seen) (max : Nat) : (s.endRow max).Keeps seen := by
  refine ⟨fun g hg => h.blanks g (mem_of_mem_dropFitting hg), ?_⟩
  rw [← h.ink]
  simp [State.endRow]

theorem Keeps.settle (h : s.Keeps seen) (max : Nat) (trim : Bool) (g : Glyph) :
    (s.settle max trim g).Keeps seen := by
  obtain hsettle | hsettle := settle_cases max trim s g
  · rw [hsettle]
    exact h.commit trim
  · rwa [hsettle]

theorem Keeps.take (h : s.Keeps seen) (g : Glyph) : (s.take g).Keeps (seen ++ [g]) := by
  rw [State.take]
  split
  · next hg =>
    refine ⟨fun g' hg' => ?_, ?_⟩
    · rcases List.mem_append.mp hg' with hold | hnew
      · exact h.blanks g' hold
      · rw [List.mem_singleton.mp hnew]
        exact hg
    · rw [ink_append seen, ink_of_blank hg, List.append_nil]
      exact h.ink
  · refine ⟨h.blanks, ?_⟩
    show Wrap.ink (s.rows.flatten ++ s.row ++ (s.word ++ [g])) = _
    rw [← List.append_assoc, ink_append, h.ink, ← ink_append]

/-- A blank that is dropped is not missed. -/
theorem Keeps.drop (h : s.Keeps seen) (hg : g.isBlank = true) : s.Keeps (seen ++ [g]) := by
  refine ⟨h.blanks, ?_⟩
  rw [h.ink, ink_append, ink_of_blank hg, List.append_nil]

theorem Keeps.push (h : s.Keeps seen) (hg : g.width ≤ max) :
    (s.push max trim g).Keeps (seen ++ [g]) := by
  have hsettled := h.settle max trim g
  by_cases hfull : (s.settle max trim g).isFull max g = true
  · rw [push_of_full hg hfull]
    dsimp only
    split
    · next hdropped =>
      exact (hsettled.endRow max).drop (Bool.and_eq_true _ _ ▸ hdropped).1
    · exact (hsettled.endRow max).take g
  · rw [push_of_room hg (Bool.eq_false_iff.mpr hfull)]
    exact hsettled.take g

theorem Keeps.foldl_push (h : s.Keeps seen) (gs : List Glyph) :
    (gs.foldl (State.push max trim) s).Keeps (seen ++ gs.filter fun g => g.width ≤ max) := by
  induction gs generalizing s seen with
  | nil => rwa [List.filter_nil, List.append_nil]
  | cons g gs ih =>
      rw [List.foldl_cons, List.filter_cons]
      by_cases hg : g.width ≤ max
      · rw [if_pos (decide_eq_true hg), List.append_cons]
        exact ih (h.push hg)
      · have hsame : s.push max trim g = s := if_pos (Nat.lt_of_not_le hg)
        rw [if_neg (by simpa using hg), hsame]
        exact ih h

/-- What is on the rows in the end. -/
theorem flatten_finish (trim : Bool) (s : State) : (s.finish trim).flatten =
    s.rows.flatten ++ (s.row ++ (if !s.row.isEmpty || !trim then s.blanks else []) ++ s.word) := by
  unfold finish
  extract_lets rows last rows'
  have hrows : rows.flatten = s.rows.flatten := by
    dsimp only [rows]
    split <;> simp
  have hrows' : rows'.flatten = s.rows.flatten ++ last := by
    dsimp only [rows']
    split
    · next hempty => rw [List.isEmpty_iff.mp hempty, hrows, List.append_nil]
    · rw [List.flatten_append, hrows, List.flatten_singleton]
  rw [← hrows']
  split
  · next hempty => rw [List.isEmpty_iff.mp hempty]; rfl
  · rfl

theorem Keeps.finish (h : s.Keeps seen) (trim : Bool) :
    Wrap.ink (s.finish trim).flatten = Wrap.ink seen := by
  have hblanks : Wrap.ink (if !s.row.isEmpty || !trim then s.blanks else []) = [] := by
    split
    · exact ink_of_blanks h.blanks
    · rfl
  rw [flatten_finish, ← h.ink]
  simp only [ink_append, hblanks, List.nil_append, List.append_assoc]

end State

/-- The words of a line are all on its rows, but for glyphs that are wider than a row. -/
theorem ink_rows (max : Nat) (trim : Bool) (l : Line) :
    ink (rows max trim l).flatten = ink (l.glyphs.filter fun g => g.width ≤ max) := by
  have hstart : State.Keeps {} [] := ⟨fun g hg => absurd hg List.not_mem_nil, rfl⟩
  exact (hstart.foldl_push l.glyphs).finish trim

-- ==================================================== one row

namespace State

/-- So far there is one row, and the glyphs on it and to come on it have so many columns. -/
structure OneRow (s : State) (columns : Nat) : Prop where
  rows : s.rows = []
  columns : s.rowWidth + s.blanksWidth + s.wordWidth ≤ columns

variable {max : Nat} {s : State} {g : Glyph} {n : Nat}

theorem OneRow.push (h : s.OneRow n) (hg : 0 < g.width) (hmax : n + g.width ≤ max) (trim : Bool) :
    (s.push max trim g).OneRow (n + g.width) := by
  have hsettled : (s.settle max trim g).OneRow n := by
    obtain hsettle | hsettle := settle_cases max trim s g
    · have hcolumns := h.columns
      rw [hsettle]
      refine ⟨h.rows, ?_⟩
      simp only [commit]
      split <;> omega
    · rwa [hsettle]
  have hcolumns := hsettled.columns
  have hroom : (s.settle max trim g).isFull max g = false := isFull_of_begins (by omega) (by omega)
  rw [push_of_room (by omega) hroom, take]
  split
  · exact ⟨hsettled.rows, by dsimp only; omega⟩
  · exact ⟨hsettled.rows, by dsimp only; omega⟩

theorem OneRow.foldl_push (h : s.OneRow n) (trim : Bool) {gs : List Glyph}
    (hgs : ∀ g ∈ gs, 0 < g.width) (hmax : n + glyphsWidth gs ≤ max) :
    (gs.foldl (State.push max trim) s).OneRow (n + glyphsWidth gs) := by
  induction gs generalizing s n with
  | nil => exact h
  | cons g gs ih =>
      rw [glyphsWidth] at hmax ⊢
      rw [← Nat.add_assoc]
      exact ih (h.push (hgs g List.mem_cons_self) (by omega) trim)
        (fun g' hg' => hgs g' (List.mem_cons_of_mem _ hg')) (by omega)

theorem OneRow.finish (h : s.OneRow n) : (s.finish true).length = 1 := by
  have hrows := h.rows
  cases hrow : s.row with
  | nil => cases hword : s.word <;> cases hblanks : s.blanks <;>
      simp [State.finish, hrows, hrow, hword, hblanks]
  | cons g gs => simp [State.finish, hrows, hrow]

end State

/-- A line with room for all its glyphs takes one row. -/
theorem length_rows_of_fits {max : Nat} {l : Line} (hl : ∀ g ∈ l.glyphs, 0 < g.width)
    (hfits : glyphsWidth l.glyphs ≤ max) : (rows max true l).length = 1 := by
  have hstart : State.OneRow {} 0 := ⟨rfl, Nat.le_refl 0⟩
  exact (hstart.foldl_push true hl (by omega)).finish

-- ==================================================== words

/-- A word with room on a row; each of its glyphs takes cells. -/
structure IsWord (max : Nat) (w : List Glyph) : Prop where
  ne_nil : w ≠ []
  visible : ∀ g ∈ w, g.isBlank = false
  cells : ∀ g ∈ w, 0 < g.width
  fits : glyphsWidth w ≤ max

namespace IsWord

variable {max : Nat} {w : List Glyph}

theorem glyphs (h : IsWord max w) : ∀ g ∈ w, g.isBlank = false ∧ 0 < g.width :=
  fun g hg => ⟨h.visible g hg, h.cells g hg⟩

theorem max_pos (h : IsWord max w) : 0 < max := by
  obtain ⟨g, gs, rfl⟩ := List.exists_cons_of_ne_nil h.ne_nil
  have hcells := h.cells g List.mem_cons_self
  have hfits := h.fits
  rw [glyphsWidth] at hfits
  omega

theorem ink_ne_nil (h : IsWord max w) : ink w ≠ [] := by
  obtain ⟨g, gs, rfl⟩ := List.exists_cons_of_ne_nil h.ne_nil
  simp [ink, h.visible g List.mem_cons_self]

end IsWord

/-- A blank of one cell. -/
structure IsGap (g : Glyph) : Prop where
  blank : g.isBlank = true
  width : g.width = 1

/-- Words behind a row that is begun, each with the blank before it: a word goes on the row if its
last glyph begins within it. -/
def pack (max : Nat) : (row : List Glyph) → List (Glyph × List Glyph) → List (List Glyph)
  | row, [] => [row]
  | row, (gap, w) :: rest =>
    if glyphsWidth row + gap.width + glyphsWidth w.dropLast < max then
      pack max (row ++ gap :: w) rest
    else row :: pack max w rest

namespace State

/-- A word is begun on an empty row. -/
def fresh (done : List (List Glyph)) (word : List Glyph) (inWord : Bool) : State :=
  { rows := done, word, wordWidth := glyphsWidth word, inWord }

/-- A word is begun behind a row and a blank. -/
def behind (done : List (List Glyph)) (row : List Glyph) (gap : Glyph) (word : List Glyph)
    (inWord : Bool) : State :=
  { rows := done, row, rowWidth := glyphsWidth row, blanks := [gap], blanksWidth := gap.width, word
    wordWidth := glyphsWidth word, inWord }

variable {max : Nat} {done : List (List Glyph)} {row word w : List Glyph} {gap g : Glyph}
  {after : Bool}

theorem glyphsWidth_concat (gs : List Glyph) (g : Glyph) :
    glyphsWidth (gs ++ [g]) = glyphsWidth gs + g.width := by
  rw [glyphsWidth_append]
  rfl

/-- On an empty row a word goes on as long as it is no wider than a row. -/
theorem push_fresh (hg : g.isBlank = false) (hcells : 0 < g.width)
    (hfits : glyphsWidth word + g.width ≤ max) :
    (fresh done word after).push max true g = fresh done (word ++ [g]) true := by
  have hsettle : (fresh done word after).settle max true g = fresh done word after := by
    have hword : ¬ max < glyphsWidth word + g.width := Nat.not_lt.mpr hfits
    have hfirst : g.width ≤ max := by omega
    refine if_neg ?_
    simp [fresh, hg, hword, hfirst]
  have hroom : (fresh done word after).isFull max g = false :=
    isFull_of_begins (show 0 < max by omega) (show 0 + 0 + glyphsWidth word < max by omega)
  rw [push_of_room (by omega) (by rw [hsettle, hroom]), hsettle, take, hg,
    if_neg Bool.false_ne_true, fresh, fresh, glyphsWidth_concat]

theorem foldl_push_fresh {gs : List Glyph} (hgs : ∀ g ∈ gs, g.isBlank = false ∧ 0 < g.width)
    (hfits : glyphsWidth word + glyphsWidth gs ≤ max) :
    gs.foldl (State.push max true) (fresh done word true) = fresh done (word ++ gs) true := by
  induction gs generalizing word with
  | nil => rw [List.append_nil]; rfl
  | cons g gs ih =>
      obtain ⟨hg, hcells⟩ := hgs g List.mem_cons_self
      rw [glyphsWidth] at hfits
      rw [List.foldl_cons, push_fresh hg hcells (by omega), List.append_cons word g gs]
      exact ih (fun g' hg' => hgs g' (List.mem_cons_of_mem _ hg'))
        (by rw [glyphsWidth_concat word g]; omega)

/-- A whole word. -/
theorem foldl_push_word (hw : IsWord max w) :
    w.foldl (State.push max true) (fresh done [] after) = fresh done w true := by
  have hfits := hw.fits
  have hglyphs := hw.glyphs
  obtain ⟨g, gs, rfl⟩ := List.exists_cons_of_ne_nil hw.ne_nil
  obtain ⟨hg, hcells⟩ := hglyphs g List.mem_cons_self
  rw [glyphsWidth] at hfits
  rw [List.foldl_cons, push_fresh hg hcells (by rw [glyphsWidth]; omega), List.nil_append,
    foldl_push_fresh (fun g' hg' => hglyphs g' (List.mem_cons_of_mem _ hg')) hfits]
  rfl

/-- Behind a row a word goes on as long as the glyphs begin within the row; the one that does not
takes the whole word to a row of its own. -/
theorem push_behind (hrow : row ≠ []) (hgap : gap.width = 1) (hopen : glyphsWidth row < max)
    (hg : g.isBlank = false) (hcells : 0 < g.width) (hfits : g.width ≤ max) :
    (behind done row gap word after).push max true g =
      if glyphsWidth row + gap.width + glyphsWidth word < max then
        behind done row gap (word ++ [g]) true
      else fresh (done ++ [row]) (word ++ [g]) true := by
  have hsettle : (behind done row gap word after).settle max true g =
      behind done row gap word after := by
    refine if_neg ?_
    simp [behind, hg, hrow]
  split
  · next hroom =>
    have hfull : (behind done row gap word after).isFull max g = false :=
      isFull_of_begins hopen hroom
    rw [push_of_room hfits (by rw [hsettle, hfull]), hsettle, take, hg, if_neg Bool.false_ne_true,
      behind, behind, glyphsWidth_concat]
  · next hover =>
    have hfull : (behind done row gap word after).isFull max g = true :=
      isFull_iff.mpr (.inr ⟨hcells, Nat.le_of_not_lt hover⟩)
    have hdropped : dropFitting (max - glyphsWidth row) [gap] = [] := by
      rw [dropFitting, if_neg (by omega)]
      rfl
    rw [push_of_full hfits (by rw [hsettle, hfull]), hsettle]
    simp only [endRow, behind, hdropped, hg, take, Bool.false_and, if_neg Bool.false_ne_true]
    rw [fresh, glyphsWidth_concat]
    rfl

theorem foldl_push_behind (hrow : row ≠ []) (hgap : gap.width = 1) (hopen : glyphsWidth row < max)
    {gs : List Glyph} (hgs : ∀ g ∈ gs, g.isBlank = false ∧ 0 < g.width)
    (hfits : glyphsWidth word + glyphsWidth gs ≤ max) (hne : gs ≠ []) :
    gs.foldl (State.push max true) (behind done row gap word after) =
      if glyphsWidth row + gap.width + glyphsWidth (word ++ gs).dropLast < max then
        behind done row gap (word ++ gs) true
      else fresh (done ++ [row]) (word ++ gs) true := by
  induction gs generalizing word after with
  | nil => exact absurd rfl hne
  | cons g gs ih =>
      obtain ⟨hg, hcells⟩ := hgs g List.mem_cons_self
      have hrest : ∀ g' ∈ gs, g'.isBlank = false ∧ 0 < g'.width :=
        fun g' hg' => hgs g' (List.mem_cons_of_mem _ hg')
      rw [glyphsWidth] at hfits
      rw [List.foldl_cons, push_behind hrow hgap hopen hg hcells (by omega)]
      by_cases hroom : glyphsWidth row + gap.width + glyphsWidth word < max
      · rw [if_pos hroom]
        cases gs with
        | nil => rw [List.dropLast_concat, if_pos hroom]; rfl
        | cons g' gs =>
            rw [List.append_cons word g (g' :: gs)]
            exact ih hrest (by rw [glyphsWidth_concat word g]; omega) (List.cons_ne_nil _ _)
      · -- the last glyph begins no further to the left than this one
        have hlast : glyphsWidth word ≤ glyphsWidth (word ++ g :: gs).dropLast := by
          rw [List.dropLast_append_of_ne_nil (List.cons_ne_nil _ _), glyphsWidth_append]
          exact Nat.le_add_right _ _
        rw [if_neg hroom, if_neg (by omega), foldl_push_fresh hrest
          (by rw [glyphsWidth_concat word g]; omega), ← List.append_cons]

/-- A row that is being filled: its glyphs so far, the last of them in a word. -/
inductive Filling : State → List (List Glyph) → List Glyph → Prop
  | fresh {done : List (List Glyph)} {word : List Glyph} (hword : word ≠ []) :
    Filling (fresh done word true) done word
  | behind {done : List (List Glyph)} {row word : List Glyph} {gap : Glyph} (hrow : row ≠ []) :
      Filling (behind done row gap word true) done (row ++ gap :: word)

variable {s : State} {line : List Glyph}

theorem Filling.ne_nil (h : Filling s done line) : line ≠ [] := by
  cases h with
  | fresh hword => exact hword
  | behind hrow => exact List.append_ne_nil_of_left_ne_nil hrow _

theorem Filling.finish (h : Filling s done line) : s.finish true = done ++ [line] := by
  cases h with
  | fresh hword => simp [State.finish, State.fresh, hword]
  | behind hrow => simp [State.finish, State.behind, hrow]

/-- What a blank settles. -/
theorem Filling.commit (h : Filling s done line) : s.commit true =
    { rows := done, row := line, rowWidth := glyphsWidth line, inWord := true } := by
  cases h with
  | fresh hword => simp [State.commit, State.fresh]
  | behind hrow =>
      simp [State.commit, State.behind, hrow, glyphsWidth_append, glyphsWidth, Nat.add_assoc]

theorem Filling.inWord (h : Filling s done line) : s.inWord = true := by
  cases h <;> rfl

/-- A blank goes behind the row, unless the row is full. -/
theorem Filling.push_gap (h : Filling s done line) (hgap : IsGap gap) (hmax : 0 < max) :
    s.push max true gap =
      if glyphsWidth line < max then State.behind done line gap [] false
      else State.fresh (done ++ [line]) [] true := by
  have hsettle : s.settle max true gap = s.commit true := by
    refine if_pos ?_
    simp [h.inWord, hgap.blank]
  have hwidth : gap.width ≤ max := by rw [hgap.width]; omega
  split
  · next hopen =>
    have hroom : (s.settle max true gap).isFull max gap = false := by
      rw [hsettle, h.commit]
      exact isFull_of_begins hopen hopen
    rw [push_of_room hwidth hroom, hsettle, h.commit, take, hgap.blank, if_pos rfl]
    simp [State.behind, glyphsWidth]
  · next hover =>
    have hfull : (s.settle max true gap).isFull max gap = true := by
      rw [hsettle, h.commit]
      exact isFull_iff.mpr (.inl (Nat.le_of_not_lt hover))
    rw [push_of_full hwidth hfull, hsettle, h.commit]
    simp [endRow, dropFitting, hgap.blank, State.fresh, glyphsWidth]

/-- The word behind a blank stays on the row or begins the next one. -/
theorem Filling.foldl_word (h : Filling s done line) (hgap : IsGap gap) (hw : IsWord max w) :
    if glyphsWidth line + gap.width + glyphsWidth w.dropLast < max then
      Filling ((gap :: w).foldl (State.push max true) s) done (line ++ gap :: w)
    else Filling ((gap :: w).foldl (State.push max true) s) (done ++ [line]) w := by
  rw [List.foldl_cons, h.push_gap hgap hw.max_pos]
  by_cases hopen : glyphsWidth line < max
  · have hfits : glyphsWidth [] + glyphsWidth w ≤ max := by
      rw [glyphsWidth, Nat.zero_add]
      exact hw.fits
    rw [if_pos hopen, foldl_push_behind h.ne_nil hgap.width hopen hw.glyphs hfits hw.ne_nil,
      List.nil_append]
    split
    · exact .behind h.ne_nil
    · exact .fresh hw.ne_nil
  · rw [if_neg hopen, if_neg (by omega), foldl_push_word hw]
    exact .fresh hw.ne_nil

/-- Words are packed behind the row that is being filled. -/
theorem Filling.foldl_finish (h : Filling s done line) {rest : List (Glyph × List Glyph)}
    (hrest : ∀ e ∈ rest, IsGap e.1 ∧ IsWord max e.2) :
    ((rest.flatMap fun e => e.1 :: e.2).foldl (State.push max true) s).finish true =
      done ++ pack max line rest := by
  induction rest generalizing s done line with
  | nil => exact h.finish
  | cons e rest ih =>
      obtain ⟨gap, w⟩ := e
      obtain ⟨hgap, hw⟩ := hrest (gap, w) List.mem_cons_self
      have hmore : ∀ e ∈ rest, IsGap e.1 ∧ IsWord max e.2 :=
        fun e he => hrest e (List.mem_cons_of_mem _ he)
      have hnext := h.foldl_word hgap hw
      rw [List.flatMap_cons, List.foldl_append, pack]
      split at hnext
      · next hstays => rw [if_pos hstays, ih hnext hmore]
      · next hmoves => rw [if_neg hmoves, ih hnext hmore, List.append_assoc, List.singleton_append]

end State

section

variable {max : Nat} {first : List Glyph} {rest : List (Glyph × List Glyph)}

/-- A line of words with one blank between them is packed. -/
theorem rows_of_words (hfirst : IsWord max first) (hrest : ∀ e ∈ rest, IsGap e.1 ∧ IsWord max e.2)
    {l : Line} (hl : l.glyphs = first ++ rest.flatMap fun e => e.1 :: e.2) :
    rows max true l = pack max first rest := by
  have hbegun : State.Filling (first.foldl (State.push max true) {}) [] first := by
    rw [show ({} : State) = State.fresh [] [] false from rfl, State.foldl_push_word hfirst]
    exact .fresh hfirst.ne_nil
  rw [rows, hl, List.foldl_append, hbegun.foldl_finish hrest, List.nil_append]

/-- Each packed row has a word. -/
theorem ink_of_mem_pack {row : List Glyph} (hfirst : ink first ≠ [])
    (hrest : ∀ e ∈ rest, ink e.2 ≠ []) (hrow : row ∈ pack max first rest) : ink row ≠ [] := by
  induction rest generalizing first with
  | nil =>
      rw [List.mem_singleton.mp hrow]
      exact hfirst
  | cons e rest ih =>
      have hmore : ∀ e' ∈ rest, ink e'.2 ≠ [] := fun e' he => hrest e' (List.mem_cons_of_mem _ he)
      rw [pack] at hrow
      split at hrow
      · refine ih (fun hnil => hfirst ?_) hmore hrow
        rw [ink_append] at hnil
        exact (List.append_eq_nil_iff.mp hnil).1
      · rcases List.mem_cons.mp hrow with rfl | hrow
        · exact hfirst
        · exact ih (hrest e List.mem_cons_self) hmore hrow

/-- The last word changes no row before the one that it is on. -/
theorem take_pack_concat (row : List Glyph) (e : Glyph × List Glyph) {n : Nat}
    (hn : n < (pack max row (rest ++ [e])).length) :
    (pack max row (rest ++ [e])).take n = (pack max row rest).take n := by
  induction rest generalizing row n with
  | nil =>
      rw [List.nil_append, pack] at hn ⊢
      split at hn
      · have hzero : n = 0 := Nat.lt_one_iff.mp hn
        rw [hzero, List.take_zero, List.take_zero]
      · next hnew =>
        rw [if_neg hnew]
        obtain rfl | hone : n = 0 ∨ n = 1 := by
          have hlt : n < 2 := hn
          omega
        · rfl
        · rw [hone]
          rfl
  | cons e' rest ih =>
      rw [List.cons_append, pack] at hn ⊢
      rw [pack]
      split at hn
      · next hstays =>
        rw [if_pos hstays, if_pos hstays]
        exact ih _ hn
      · next hmoves =>
        rw [if_neg hmoves, if_neg hmoves]
        cases n with
        | zero => rfl
        | succ n => rw [List.take_succ_cons, List.take_succ_cons, ih _ (Nat.lt_of_succ_lt_succ hn)]

/-- How many rows words of so many narrow glyphs take behind a row that is begun. -/
def packedRows (max : Nat) : (begun : Nat) → List Nat → Nat
  | _, [] => 1
  | begun, n :: rest =>
    if begun + n < max then packedRows max (begun + 1 + n) rest else packedRows max n rest + 1

theorem glyphsWidth_narrow {gs : List Glyph} (h : ∀ g ∈ gs, g.width = 1) :
    glyphsWidth gs = gs.length := by
  induction gs with
  | nil => rfl
  | cons g gs ih =>
      rw [glyphsWidth, h g List.mem_cons_self, ih fun g' hg' => h g' (List.mem_cons_of_mem _ hg'),
        List.length_cons, Nat.add_comm]

theorem length_pack (hrest : ∀ e ∈ rest, IsGap e.1 ∧ e.2 ≠ [] ∧ ∀ g ∈ e.2, g.width = 1)
    (row : List Glyph) :
    (pack max row rest).length = packedRows max (glyphsWidth row) (rest.map fun e => e.2.length) := by
  induction rest generalizing row with
  | nil => rfl
  | cons e rest ih =>
      obtain ⟨gap, w⟩ := e
      obtain ⟨hgap, hne, hnarrow⟩ := hrest (gap, w) List.mem_cons_self
      have hmore := fun row => ih (fun e he => hrest e (List.mem_cons_of_mem _ he)) row
      have hlast : glyphsWidth w.dropLast = w.length - 1 := by
        rw [glyphsWidth_narrow fun g hg => hnarrow g (List.mem_of_mem_dropLast hg),
          List.length_dropLast]
      have hpos : 0 < w.length := List.length_pos_iff.mpr hne
      have hbehind : glyphsWidth (row ++ gap :: w) = glyphsWidth row + 1 + w.length := by
        rw [glyphsWidth_append, glyphsWidth, hgap.width, glyphsWidth_narrow hnarrow, Nat.add_assoc]
      rw [pack, hgap.width, hlast, List.map_cons, packedRows]
      by_cases hstays : glyphsWidth row + w.length < max
      · rw [if_pos (by omega), if_pos hstays, hmore, hbehind]
      · rw [if_neg (by omega), if_neg hstays, List.length_cons, hmore, glyphsWidth_narrow hnarrow]

end

end Wrap

end FunctionConsole
