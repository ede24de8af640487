import FunctionConsole.Proofs.DrawnText

/-!
# Rows of the screen

Each row of the screen is drawn by itself: what a row looks like after something is drawn depends on
this row alone (`Buffer.ByRows`). So of lines that are drawn one below the other each is alone in
its row, and the rest of the screen stays as it was (`drawLines_row`). What is drawn of a list that
is longer than its area is a window of it, lines that follow each other from one on
(`Buffer.ShowsWindow`).

Plain text has one cell for each character, so that a row shows as much of it as there is room for,
whatever stands behind it in the line (`textAt_drawLine`).
-/

namespace FunctionConsole

namespace Buffer

/-- Two grids of one size are the same in a row. -/
structure SameRow (y : Nat) (b b' : Buffer) : Prop where
  width : b'.width = b.width
  height : b'.height = b.height
  cells : ∀ x, b'.cell? x y = b.cell? x y

section

variable {y : Nat} {b b' b'' : Buffer} {r : Rect}

theorem SameRow.refl (y : Nat) (b : Buffer) : SameRow y b b := ⟨rfl, rfl, fun _ => rfl⟩

theorem SameRow.symm (h : SameRow y b b') : SameRow y b' b :=
  ⟨h.width.symm, h.height.symm, fun x => (h.cells x).symm⟩

theorem SameRow.trans (h : SameRow y b b') (h' : SameRow y b' b'') : SameRow y b b'' :=
  ⟨h'.width.trans h.width, h'.height.trans h.height, fun x => (h'.cells x).trans (h.cells x)⟩

theorem SameRow.area (h : SameRow y b b') : b'.area = b.area := by
  rw [Buffer.area, h.width, h.height, Buffer.area]

/-- A row outside of an area is not changed within the area. -/
theorem ChangesOnly.sameRow (h : ChangesOnly r b b') (hy : ¬(r.y ≤ y ∧ y < r.bottom)) :
    SameRow y b b' :=
  ⟨h.width, h.height, fun x => h.cells x y fun hin => hy hin.2⟩

theorem SameRow.reads (h : SameRow y b b') (x n : Nat) : b'.reads y x n = b.reads y x n :=
  reads_congr fun i _ _ => h.cells i

end

-- ==================================================== drawing row by row

/-- What a row looks like after the drawing depends on the row alone. -/
def ByRows (draw : Buffer → Buffer) : Prop :=
  ∀ y b b', SameRow y b b' → SameRow y (draw b) (draw b')

section

variable {draw draw' : Buffer → Buffer} {f : Cell → Cell}

theorem byRows_id : ByRows id := fun _ _ _ h => h

theorem ByRows.comp (h : ByRows draw) (h' : ByRows draw') : ByRows fun b => draw' (draw b) :=
  fun y b b' hrow => h' y (draw b) (draw b') (h y b b' hrow)

theorem modify_byRows (x y : Nat) (f : Cell → Cell) : ByRows fun b => b.modify x y f := by
  intro y' b b' h
  refine ⟨?_, ?_, fun x' => ?_⟩
  · rw [width_modify, width_modify, h.width]
  · rw [height_modify, height_modify, h.height]
  · rw [cell?_modify, cell?_modify, h.cells]

theorem modifyRow_byRows (f : Cell → Cell) (y count x : Nat) : ByRows (modifyRow f y count x) := by
  induction count generalizing x with
  | zero => exact byRows_id
  | succ n ih => exact (modify_byRows x y f).comp (ih (x + 1))

theorem modifyRows_byRows (f : Cell → Cell) (x width count y : Nat) :
    ByRows (modifyRows f x width count y) := by
  induction count generalizing y with
  | zero => exact byRows_id
  | succ n ih => exact (modifyRow_byRows f y width x).comp (ih (y + 1))

theorem paint_byRows (r : Rect) (st : Style) : ByRows fun b => b.paint r st := by
  intro y b b' h
  show SameRow y (b.modifyArea r _) (b'.modifyArea r _)
  unfold modifyArea
  rw [h.area]
  exact modifyRows_byRows _ _ _ _ _ y b b' h

theorem drawGlyph_byRows (left y x : Nat) (first : Bool) (g : Glyph) :
    ByRows (drawGlyph left y x first g) := by
  have hhide : ByRows fun b => b.hide (x + 1) y (g.width - 1) := modifyRow_byRows _ _ _ _
  intro y' b b' h
  refine hhide y' _ _ ?_
  split
  · exact modify_byRows x y _ y' b b' h
  · split
    · exact modify_byRows x y _ y' b b' h
    · split
      · exact modify_byRows (x - 1) y _ y' b b' h
      · exact modify_byRows x y _ y' b b' h

theorem drawGlyphs_byRows (left right y x : Nat) (first : Bool) (gs : List Glyph) :
    ByRows (drawGlyphs left right y x first gs) := by
  induction gs generalizing x first with
  | nil => exact byRows_id
  | cons g gs ih =>
      intro y' b b' h
      rw [drawGlyphs_cons, drawGlyphs_cons]
      split
      · exact h
      · exact ih _ _ y' _ _ (drawGlyph_byRows left y x first g y' b b' h)

theorem drawSpan_byRows (area : Rect) (sp : Span) : ByRows fun b => b.drawSpan area sp := by
  intro y b b' h
  show SameRow y (b.drawSpan area sp) (b'.drawSpan area sp)
  unfold drawSpan
  rw [h.area]
  dsimp only
  split
  · exact h
  · exact drawGlyphs_byRows _ _ _ _ _ _ y b b' h

theorem drawSpans_byRows (area : Rect) (ss : List Span) : ByRows (drawSpans area ss) := by
  induction ss generalizing area with
  | nil => exact byRows_id
  | cons sp ss ih =>
      intro y b b' h
      rw [drawSpans, drawSpans]
      split
      · exact ih area y b b' h
      · split
        · exact h
        · exact ih _ y _ _ (drawSpan_byRows area sp y b b' h)

theorem drawLine_byRows (area : Rect) (l : Line) : ByRows fun b => b.drawLine area l := by
  intro y b b' h
  show SameRow y (b.drawLine area l) (b'.drawLine area l)
  unfold drawLine
  rw [h.area]
  dsimp only
  split
  · exact h
  · exact drawSpans_byRows _ _ y _ _ (paint_byRows _ _ y b b' h)

theorem putGlyphs_byRows (y x : Nat) (gs : List Glyph) : ByRows (putGlyphs y x gs) := by
  induction gs generalizing x with
  | nil => exact byRows_id
  | cons g gs ih =>
      intro y' b b' h
      rw [putGlyphs, putGlyphs]
      split
      · exact ih x y' b b' h
      · exact ih _ y' _ _ (modify_byRows x y _ y' b b' h)

end

-- ==================================================== drawing nothing

theorem modify_id (b : Buffer) (x y : Nat) : b.modify x y id = b := by
  unfold modify
  split
  · have hcells : b.cells.modify (y * b.width + x) id = b.cells := by
      apply Array.ext_getElem?
      intro i
      rw [Array.getElem?_modify]
      split <;> simp
    rw [hcells]
  · rfl

theorem modifyRow_id (y count x : Nat) (b : Buffer) : modifyRow id y count x b = b := by
  induction count generalizing x with
  | zero => rfl
  | succ n ih => rw [modifyRow, modify_id, ih]

theorem modifyRows_id (x width count y : Nat) (b : Buffer) :
    modifyRows id x width count y b = b := by
  induction count generalizing y with
  | zero => rfl
  | succ n ih => rw [modifyRows, modifyRow_id, ih]

/-- A style that says nothing leaves every cell. -/
theorem paint_nothing (b : Buffer) (r : Rect) : b.paint r {} = b := by
  have hid : (fun c : Cell => c.styled {}) = id := by
    funext c
    simp [Cell.styled, Emphasis.union]
  rw [paint, hid]
  exact modifyRows_id _ _ _ _ b

-- ==================================================== one row after another

section

variable {α : Type} {draw : Nat → α → Buffer → Buffer} {top : Nat}

/-- Things that are drawn each in a row of its own leave the other rows. -/
theorem sameRow_foldl_zipIdx (hrow : ∀ i a b y, y ≠ top + i → SameRow y b (draw i a b))
    (l : List α) (k : Nat) (b : Buffer) {y : Nat}
    (hy : ∀ i, k ≤ i → i < k + l.length → y ≠ top + i) :
    SameRow y b ((l.zipIdx k).foldl (fun b e => draw e.2 e.1 b) b) := by
  induction l generalizing k b with
  | nil => exact .refl y b
  | cons a l ih =>
      rw [List.length_cons] at hy
      rw [List.zipIdx_cons, List.foldl_cons]
      exact (hrow k a b y (hy k (Nat.le_refl k) (by omega))).trans
        (ih (k + 1) _ fun i hi hlt => hy i (by omega) (by omega))

/-- Each of them is alone in its row. -/
theorem foldl_zipIdx_sameRow (hbyRows : ∀ i a, ByRows (draw i a))
    (hrow : ∀ i a b y, y ≠ top + i → SameRow y b (draw i a b)) {l : List α} {k r : Nat} {a : α}
    (ha : l[r]? = some a) (b : Buffer) :
    SameRow (top + (k + r)) (draw (k + r) a b)
      ((l.zipIdx k).foldl (fun b e => draw e.2 e.1 b) b) := by
  induction l generalizing k r b with
  | nil => cases ha
  | cons c l ih =>
      rw [List.zipIdx_cons, List.foldl_cons]
      cases r with
      | zero =>
          cases ha
          exact sameRow_foldl_zipIdx hrow l (k + 1) _ fun i hi _ => by omega
      | succ r =>
          -- what was drawn above is not in this row
          have habove : SameRow (top + (k + (r + 1))) b (draw k c b) := hrow k c b _ (by omega)
          have hrest := ih (k := k + 1) ha (draw k c b)
          rw [show k + 1 + r = k + (r + 1) by omega] at hrest
          exact (hbyRows _ a _ _ _ habove).trans hrest

end

theorem putGlyphs_sameRow {y y' : Nat} (hy : y' ≠ y) (x : Nat) (gs : List Glyph) (b : Buffer) :
    SameRow y' b (putGlyphs y x gs b) := by
  have hchange : ChangesOnly ⟨x, y, glyphsWidth gs, 1⟩ b (putGlyphs y x gs b) :=
    putGlyphs_changesOnly fun i hi hlt => ⟨⟨hi, hlt⟩, Nat.le_refl y, Nat.lt_succ_self y⟩
  refine hchange.sameRow fun h => ?_
  have hrow : y ≤ y' ∧ y' < y + 1 := h
  omega

section

variable (area : Rect) (b : Buffer)

/-- A row that is cut off with its area is cut off by itself. -/
theorem drawLine_inter_row (r : Nat) (l : Line) :
    b.drawLine ((area.inter b.area).row r) l = b.drawLine (area.row r) l := by
  have harea : ((area.inter b.area).row r).inter b.area = (area.row r).inter b.area := by
    simp only [Rect.inter, Rect.row, Buffer.area, Rect.right, Rect.bottom, Rect.mk.injEq]
    omega
  rw [drawLine, drawLine, harea]

/-- A line below the grid is not drawn. -/
theorem drawLine_below {r : Nat} (l : Line) (h : (area.inter b.area).height ≤ r)
    (hr : r < area.height) : b.drawLine (area.row r) l = b := by
  have hempty : ((area.row r).inter b.area).isEmpty = true := by
    by_contra hroom
    rw [Rect.not_isEmpty] at hroom
    simp only [Rect.inter, Rect.row, Buffer.area, Rect.right, Rect.bottom] at h hroom
    omega
  rw [drawLine]
  dsimp only
  rw [if_pos (.inl hempty)]

theorem drawLine_sameRow {r y : Nat} (l : Line) (hy : y ≠ area.y + r) :
    SameRow y b (b.drawLine (area.row r) l) :=
  (drawLine_changesOnly (area.row r) l).sameRow fun h => by
    simp only [Rect.row, Rect.bottom] at h
    omega

/-- Of lines that are drawn one below the other each is alone in its row. -/
theorem drawLines_row {ls : List Line} {r : Nat} {l : Line} (hl : ls[r]? = some l)
    (hr : r < area.height) :
    SameRow (area.y + r) (b.drawLine (area.row r) l) (b.drawLines area ls) := by
  have htop : (area.inter b.area).y = area.y := Nat.max_zero area.y
  have hbyRows (i : Nat) (a : Line) : ByRows fun b' => b'.drawLine ((area.inter b.area).row i) a :=
    drawLine_byRows _ a
  have hrow (i : Nat) (a : Line) (b' : Buffer) (y : Nat) (hy : y ≠ (area.inter b.area).y + i) :
      SameRow y b' (b'.drawLine ((area.inter b.area).row i) a) := drawLine_sameRow _ b' a hy
  rw [drawLines]
  by_cases hin : r < (area.inter b.area).height
  · have hmem : (ls.take (area.inter b.area).height)[r]? = some l := by
      rw [List.getElem?_take_of_lt hin, hl]
    have hfold := foldl_zipIdx_sameRow hbyRows hrow (k := 0) hmem b
    rw [Nat.zero_add, htop] at hfold
    rw [← drawLine_inter_row area b r l]
    exact hfold
  · rw [drawLine_below area b l (Nat.le_of_not_lt hin) hr, ← htop]
    refine sameRow_foldl_zipIdx hrow _ 0 b fun i _ hlt => ?_
    rw [List.length_take] at hlt
    omega

/-- Lines that are drawn one below the other take so many rows. -/
theorem drawLines_changesOnly_rows (ls : List Line) :
    ChangesOnly { area with height := min area.height ls.length } b (b.drawLines area ls) := by
  rw [drawLines]
  dsimp only
  refine ChangesOnly.foldl (fun e he b' => (drawLine_changesOnly _ e.1).mono ?_) b
  have hlt := List.snd_lt_of_mem_zipIdx he
  rw [List.length_take] at hlt
  intro x y h
  simp only [Rect.Has, Rect.row, Rect.inter, Buffer.area, Rect.right, Rect.bottom] at h hlt ⊢
  omega

end

-- ==================================================== windows

/-- An area is drawn with lines that follow each other, from the `first` on, a row for each, as many
as there are and as fit; other rows are left. -/
structure ShowsWindow (area : Rect) (b drawn : Buffer) (ls : List Line) (first : Nat) : Prop where
  row : ∀ r < area.height, ∀ l, ls[first + r]? = some l →
    SameRow (area.y + r) (b.drawLine (area.row r) l) drawn
  others : ChangesOnly { area with height := min area.height (ls.length - first) } b drawn

section

variable {area : Rect} {b drawn : Buffer} {ls : List Line} {first : Nat}

theorem drawLines_showsWindow (area : Rect) (b : Buffer) (ls : List Line) (first : Nat) :
    ShowsWindow area b (b.drawLines area ((ls.drop first).take area.height)) ls first where
  row r hr l hl :=
    drawLines_row area b (by rw [List.getElem?_take_of_lt hr, List.getElem?_drop, hl]) hr
  others := by
    have hrows := drawLines_changesOnly_rows area b ((ls.drop first).take area.height)
    rw [List.length_take, List.length_drop, ← Nat.min_assoc, Nat.min_self] at hrows
    exact hrows

/-- A line that is within the window has its row. -/
theorem ShowsWindow.exists_row (h : ShowsWindow area b drawn ls first) {i : Nat} {l : Line}
    (hin : first ≤ i ∧ i < first + area.height) (hl : ls[i]? = some l) :
    ∃ r < area.height, first + r = i ∧ SameRow (area.y + r) (b.drawLine (area.row r) l) drawn := by
  have hplace : first + (i - first) = i := Nat.add_sub_cancel' hin.1
  exact ⟨i - first, by omega, hplace, h.row _ (by omega) l (hplace.symm ▸ hl)⟩

end

end Buffer

-- ==================================================== plain text in a row

/-- A plain text takes a cell for each character. -/
theorem width_of_plain {cs : List Char} (h : ∀ c ∈ cs, isPlain c = true) :
    Text.width cs = cs.length := by
  have hfrom : Text.widthFrom cs = ((cs.length : Int), ⟨.other, none⟩) := by
    induction cs with
    | nil => rfl
    | cons c cs ih =>
        have hplain := h c List.mem_cons_self
        obtain ⟨-, -, hfeed, hlast⟩ := plain_char hplain
        have hpicture : c ≠ Text.pictureSelector := by
          rintro rfl
          exact absurd hplain (by decide)
        have htext : c ≠ Text.textSelector := by
          rintro rfl
          exact absurd hplain (by decide)
        have hsmall : c.toNat ≤ 0xA0 := by omega
        have halone : Text.Neighbour.before .other c = (1, .other) := by
          rw [Text.Neighbour.before, if_pos hsmall, if_neg hfeed, if_neg (by simp)]
        have hbefore : Text.widthBefore c ⟨.other, none⟩ = (1, ⟨.other, none⟩) := by
          rw [Text.widthBefore, if_neg hpicture, if_neg htext, if_neg (by simp), if_neg (by simp),
            Text.Following.unselected, halone]
        rw [Text.widthFrom, ih fun d hd => h d (List.mem_cons_of_mem _ hd)]
        dsimp only
        rw [hbefore, List.length_cons, Nat.cast_succ]
  rw [Text.width, hfrom, Int.toNat_natCast]

/-- Spans of plain text. -/
def PlainSpans (ss : List Span) : Prop := ∀ sp ∈ ss, ∀ c ∈ sp.text.toList, isPlain c = true

/-- The characters of spans. -/
def spansText (ss : List Span) : List Char := ss.flatMap fun sp => sp.text.toList

theorem length_spansText_le {ss : List Span} (h : PlainSpans ss) (rest : List Span) :
    (spansText ss).length ≤ spansWidth (ss ++ rest) := by
  induction ss with
  | nil => exact Nat.zero_le _
  | cons sp ss ih =>
      have hrest := ih fun sp' hsp => h sp' (List.mem_cons_of_mem _ hsp)
      have hwidth : sp.width = sp.text.toList.length := width_of_plain (h sp List.mem_cons_self)
      rw [spansText, List.flatMap_cons, List.length_append, List.cons_append, spansWidth, hwidth]
      exact Nat.add_le_add_left hrest _

theorem glyphs_of_plain {sp : Span} (h : ∀ c ∈ sp.text.toList, isPlain c = true) (below : Style) :
    sp.glyphs below = sp.text.toList.map fun c => ⟨[c], below.andThen sp.style⟩ := by
  show (drawnClusters sp.text).map _ = _
  rw [drawnClusters_of_plain h, List.map_map]
  rfl

namespace Buffer

section

variable {b : Buffer} {y : Nat}

/-- A glyph of one cell is put into it. -/
theorem drawGlyph_of_narrow {left x : Nat} {first : Bool} {g : Glyph} (hg : g.width = 1)
    (hfirst : first = false → left < x) (b : Buffer) :
    drawGlyph left y x first g b = b.modify x y fun c => c.put g.text g.style := by
  have hhide (b' : Buffer) : b'.hide (x + 1) y (g.width - 1) = b' := by
    rw [hg]
    rfl
  rw [drawGlyph, hhide]
  cases first with
  | true => rw [if_pos rfl]
  | false =>
      have hlt := hfirst rfl
      rw [if_neg Bool.false_ne_true, if_neg (by omega), if_neg (by omega)]

/-- Glyphs of one cell each stand side by side, as far as there is room, and leave what is before
them. -/
theorem textAt_drawGlyphs {left right x : Nat} {first : Bool} {gs : List Glyph}
    (hgs : ∀ g ∈ gs, g.width = 1) (hx : left ≤ x) (hfirst : first = false → left < x) (hb : b.Full)
    (hright : right ≤ b.width) (hy : y < b.height) :
    (∀ i < x, (drawGlyphs left right y x first gs b).textAt i y = b.textAt i y) ∧
    ∀ k g, gs[k]? = some g → x + k < right →
      (drawGlyphs left right y x first gs b).textAt (x + k) y = g.text := by
  induction gs generalizing x first b with
  | nil => exact ⟨fun _ _ => rfl, fun k g hk => by simp at hk⟩
  | cons g gs ih =>
      have hg := hgs g List.mem_cons_self
      rw [drawGlyphs_cons, hg]
      by_cases hroom : right < x + 1
      · rw [if_pos hroom]
        exact ⟨fun _ _ => rfl, fun k g' _ hk => by omega⟩
      · rw [if_neg hroom, drawGlyph_of_narrow hg hfirst]
        have hput : ChangesOnly ⟨x, y, 1, 1⟩ b (b.modify x y fun c => c.put g.text g.style) :=
          modify_changesOnly
            ⟨⟨Nat.le_refl x, Nat.lt_succ_self x⟩, Nat.le_refl y, Nat.lt_succ_self y⟩
        have hcell (i : Nat) : (b.modify x y fun c => c.put g.text g.style).textAt i y =
            if i = x then g.text else b.textAt i y := by
          rw [textAt, cell?_modify]
          by_cases hi : i = x
          · obtain ⟨c, hc⟩ := hb.cell (show x < b.width by omega) hy
            rw [if_pos ⟨hi, rfl⟩, if_pos hi, hi, hc]
            rfl
          · rw [if_neg fun h => hi h.1, if_neg hi, textAt]
        obtain ⟨hbefore, hbehind⟩ := ih (x := x + 1)
          (fun g' hg' => hgs g' (List.mem_cons_of_mem _ hg')) (Nat.le_succ_of_le hx)
          (fun _ : false = false => Nat.lt_succ_of_le hx) (hput.full hb) (by rwa [hput.width])
          (by rwa [hput.height])
        refine ⟨fun i hi => ?_, fun k g' hk hlt => ?_⟩
        · rw [hbefore i (by omega), hcell, if_neg (by omega)]
        · cases k with
          | zero =>
              cases hk
              show (drawGlyphs left right y (x + 1) false gs _).textAt x y = g.text
              rw [hbefore x (Nat.lt_succ_self x), hcell, if_pos rfl]
          | succ k =>
              rw [show x + (k + 1) = x + 1 + k by omega]
              exact hbehind k g' hk (by omega)

/-- A plain text stands in the cells of its area, as far as there is room. -/
theorem textAt_drawSpan {area : Rect} {sp : Span} (hsp : ∀ c ∈ sp.text.toList, isPlain c = true)
    (hb : b.Full) (hin : b.Holds area) (hheight : 0 < area.height) {k : Nat} {c : Char}
    (hc : sp.text.toList[k]? = some c) (hk : k < area.width) :
    (b.drawSpan area sp).textAt (area.x + k) area.y = [c] := by
  have hroom : ¬ area.isEmpty = true := Rect.not_isEmpty.mpr ⟨by omega, hheight⟩
  have hgs : ∀ g ∈ sp.glyphs {}, g.width = 1 := by
    rw [glyphs_of_plain hsp]
    intro g hg
    obtain ⟨d, hd, rfl⟩ := List.mem_map.mp hg
    exact (plain_char (hsp d hd)).2.1
  have hglyph : (sp.glyphs {})[k]? = some ⟨[c], ({} : Style).andThen sp.style⟩ := by
    rw [glyphs_of_plain hsp, List.getElem?_map, hc]
    rfl
  have hy : area.y < b.height := by
    have hbottom : area.y + area.height ≤ b.height := hin.2
    omega
  rw [drawSpan, hin.inter_eq]
  rw [if_neg hroom]
  have hstart : true = false → area.x < area.x := fun h => absurd h.symm Bool.false_ne_true
  exact (textAt_drawGlyphs hgs (Nat.le_refl _) hstart hb hin.1 hy).2 k _ hglyph
    (Nat.add_lt_add_left hk _)

theorem Holds.dropColumns {area : Rect} (h : b.Holds area) {n : Nat} (hn : n ≤ area.width) :
    b.Holds (area.dropColumns n) := by
  obtain ⟨hright, hbottom⟩ := h
  simp only [Rect.right] at hright
  refine ⟨?_, hbottom⟩
  simp only [Rect.right, Rect.dropColumns]
  omega

/-- Spans of plain text stand side by side, as far as there is room, whatever comes behind them. -/
theorem textAt_drawSpans {area : Rect} {ss : List Span} (hss : PlainSpans ss) (rest : List Span)
    (hb : b.Full) (hin : b.Holds area) (hheight : 0 < area.height) {k : Nat} {c : Char}
    (hc : (spansText ss)[k]? = some c) (hk : k < area.width) :
    (drawSpans area (ss ++ rest) b).textAt (area.x + k) area.y = [c] := by
  induction ss generalizing area k b with
  | nil => cases hc
  | cons sp ss ih =>
      have hsp := hss sp List.mem_cons_self
      have hrest : PlainSpans ss := fun sp' hsp' => hss sp' (List.mem_cons_of_mem _ hsp')
      have hwidth : sp.width = sp.text.toList.length := width_of_plain hsp
      have hroom : ¬ area.isEmpty = true := Rect.not_isEmpty.mpr ⟨by omega, hheight⟩
      rw [spansText, List.flatMap_cons] at hc
      rw [List.cons_append, drawSpans]
      by_cases hzero : sp.width = 0
      · rw [if_pos hzero]
        have hnil : sp.text.toList = [] := List.eq_nil_of_length_eq_zero (hwidth ▸ hzero)
        rw [hnil, List.nil_append] at hc
        exact ih hrest hb hin hheight hc hk
      · rw [if_neg hzero, if_neg hroom]
        have hspan := drawSpan_changesOnly (b := b) area sp
        by_cases hfirst : k < sp.text.toList.length
        · -- the spans behind it are to the right
          rw [List.getElem?_append_left hfirst] at hc
          have hkept := drawSpans_changesOnly (b := b.drawSpan area sp) (area.dropColumns sp.width)
            (ss ++ rest)
          have hout : ¬ (area.dropColumns sp.width).Has (area.x + k) area.y := fun h => by
            have hleft : area.x + sp.width ≤ area.x + k := h.1.1
            omega
          rw [textAt, hkept.cells _ _ hout]
          exact textAt_drawSpan hsp hb hin hheight hc hk
        · rw [List.getElem?_append_right (Nat.le_of_not_lt hfirst), ← hwidth] at hc
          have hbehind := ih hrest (hspan.full hb) ((hin.kept hspan).dropColumns (by omega)) hheight
            hc (show k - sp.width < area.width - sp.width by omega)
          have hcolumn : area.x + sp.width + (k - sp.width) = area.x + k := by omega
          rw [← hcolumn]
          exact hbehind

/-- So they do in a line. -/
theorem textAt_drawLine {area : Rect} {l : Line} {ss rest : List Span} (hl : l.spans = ss ++ rest)
    (hss : PlainSpans ss) (hb : b.Full) (hin : b.Holds area) (hheight : 0 < area.height) {k : Nat}
    {c : Char} (hc : (spansText ss)[k]? = some c) (hk : k < area.width) :
    (b.drawLine area l).textAt (area.x + k) area.y = [c] := by
  have hlength : k < (spansText ss).length := (List.getElem?_eq_some_iff.mp hc).1
  have hwide : ¬ (area.isEmpty = true ∨ l.width = 0) := by
    have hle := length_spansText_le hss rest
    rw [not_or, Rect.not_isEmpty, Line.width, hl]
    exact ⟨⟨by omega, hheight⟩, by omega⟩
  let row : Rect := { area with height := 1 }
  have hpaint := paint_changesOnly (b := b) row l.style
  have hrow : b.Holds row := ⟨hin.1, by
    have hbottom : area.y + area.height ≤ b.height := hin.2
    show area.y + 1 ≤ b.height
    omega⟩
  rw [drawLine, hin.inter_eq]
  dsimp only
  rw [if_neg hwide, hl]
  exact textAt_drawSpans hss rest (hpaint.full hb) (hrow.kept hpaint) Nat.one_pos hc hk

/-- A row reads what stands in its cells. -/
theorem reads_of_textAt {x n : Nat} {text : List Char} (hn : n ≤ text.length)
    (h : ∀ k c, text[k]? = some c → k < n → b.textAt (x + k) y = [c]) :
    b.reads y x n = text.take n := by
  induction n with
  | zero => rw [List.take_zero]; rfl
  | succ n ih =>
      have hlast : text[n]? = some text[n] := List.getElem?_eq_getElem hn
      rw [reads_add, reads_one, ih (Nat.le_of_succ_le hn) fun k c hc hlt => h k c hc (by omega),
        h n _ hlast (Nat.lt_succ_self n), List.take_add_one, hlast]
      rfl

end

end Buffer

end FunctionConsole
