import FunctionConsole.Proofs.Drawing
import FunctionConsole.Recording.Picture

/-!
# Drawn text

What a row of the screen reads. Glyphs that have room are drawn in full: each stands in its cell,
followed by the cells that it hides, and one without width joins the cell before it
(`drawSpan_reads`). Later drawing elsewhere leaves the text as it is (`Shows.kept`).
-/

namespace FunctionConsole

/-- The clusters of a text that are drawn: those without a control character. -/
def drawnClusters (text : String) : List (List Char) :=
  (Text.clusters text.toList).filter fun g => !g.any Text.isControl

/-- How a text reads on the screen: a wide cluster is followed by the blanks that it hides. -/
def shownText (text : String) : List Char :=
  (drawnClusters text).flatMap fun g => g ++ List.replicate (Text.width g - 1) ' '

/-- The columns of the clusters of a text, each by itself. -/
def shownWidth (text : String) : Nat := ((drawnClusters text).map Text.width).sum

/-- A character of plain text: one of the first 127 that is not a control. -/
def isPlain (c : Char) : Bool := 0x20 ≤ c.toNat && c.toNat < 0x7F

theorem plain_char {c : Char} (h : isPlain c = true) :
    Text.isControl c = false ∧ Text.width [c] = 1 ∧ c ≠ '\n' ∧ c.toNat < 0x80 := by
  have hall : ∀ n < 0x7F, 0x20 ≤ n → Text.isControl (Char.ofNat n) = false ∧
      Text.width [Char.ofNat n] = 1 ∧ Char.ofNat n ≠ '\n' ∧ (Char.ofNat n).toNat < 0x80 := by
    decide +kernel
  simp only [isPlain, Bool.and_eq_true, decide_eq_true_eq] at h
  simpa using hall c.toNat h.2 h.1

/-- Each character of a plain text is a cluster by itself. -/
theorem clusters_of_plain {cs : List Char} (h : ∀ c ∈ cs, isPlain c = true) :
    Text.clusters cs = cs.map fun c => [c] := by
  have hclusters : ∀ (cs : List Char) (c : Char), (∀ d ∈ c :: cs, isPlain d = true) →
      Text.clustersFrom [c] (.start c) cs = (c :: cs).map fun d => [d] := by
    intro cs
    induction cs with
    | nil => exact fun c _ => rfl
    | cons d ds ih =>
        intro c hc
        have hlast := (plain_char (hc c List.mem_cons_self)).2.2.2
        obtain ⟨-, -, hfeed, hnext⟩ := plain_char (hc d (List.mem_cons_of_mem _ List.mem_cons_self))
        have haccepts : (Text.ClusterState.start c).accepts d = false := by
          simp [Text.ClusterState.accepts, Text.ClusterState.start, hlast, hnext, hfeed]
        rw [Text.clustersFrom, haccepts, if_neg Bool.false_ne_true,
          ih d fun e he => hc e (List.mem_cons_of_mem _ he)]
        rfl
  cases cs with
  | nil => rfl
  | cons c cs => exact hclusters cs c h

/-- Each of them is drawn. -/
theorem drawnClusters_of_plain {text : String} (h : ∀ c ∈ text.toList, isPlain c = true) :
    drawnClusters text = text.toList.map fun c => [c] := by
  rw [drawnClusters, clusters_of_plain h, List.filter_eq_self]
  intro g hg
  obtain ⟨c, hc, rfl⟩ := List.mem_map.mp hg
  simp [(plain_char (h c hc)).1]

/-- A plain text is read on the screen as it is. -/
theorem shownText_of_plain (text : String) (htext : text.toList.all isPlain = true) :
    shownText text = text.toList := by
  have h : ∀ c ∈ text.toList, isPlain c = true := List.all_eq_true.mp htext
  calc shownText text
      = text.toList.flatMap fun c => [c] ++ List.replicate (Text.width [c] - 1) ' ' := by
        rw [shownText, drawnClusters_of_plain h, List.flatMap_map]
    _ = text.toList.flatMap fun c => [c] :=
        List.flatMap_congr fun c hc => by rw [(plain_char (h c hc)).2.1]; rfl
    _ = text.toList := List.flatMap_singleton' _

/-- How glyphs read on the screen. -/
def shownGlyphs (gs : List Glyph) : List Char :=
  gs.flatMap fun g => g.text ++ List.replicate (g.width - 1) ' '

theorem shownGlyphs_glyphs (sp : Span) (below : Style) :
    shownGlyphs (sp.glyphs below) = shownText sp.text := by
  simp [shownGlyphs, Span.glyphs, shownText, drawnClusters, Glyph.width, List.flatMap_map]

theorem glyphsWidth_eq_sum (gs : List Glyph) : glyphsWidth gs = (gs.map Glyph.width).sum := by
  induction gs with
  | nil => rfl
  | cons g gs ih => rw [glyphsWidth, ih, List.map_cons, List.sum_cons]

theorem glyphsWidth_glyphs (sp : Span) (below : Style) :
    glyphsWidth (sp.glyphs below) = shownWidth sp.text := by
  rw [glyphsWidth_eq_sum, Span.glyphs, List.map_map]
  rfl

namespace Buffer

/-- What a cell reads; there is nothing outside the grid. -/
def textAt (b : Buffer) (x y : Nat) : List Char := ((b.cell? x y).map Cell.text).getD []

/-- What some cells of a row read. -/
def reads (b : Buffer) (y x count : Nat) : List Char :=
  (List.range' x count).flatMap fun i => b.textAt i y

/-- An area of the screen shows a text in one of its rows. -/
def Shows (b : Buffer) (r : Rect) (text : List Char) : Prop :=
  ∃ y x count, (r.y ≤ y ∧ y < r.bottom) ∧ r.x ≤ x ∧ x + count ≤ r.right ∧ b.reads y x count = text

/-- The grid has all its cells. -/
def Full (b : Buffer) : Prop := b.cells.size = b.width * b.height

section

variable {b b' : Buffer} {r s : Rect} {y x m n : Nat}

theorem reads_add (b : Buffer) (y x m n : Nat) :
    b.reads y x (m + n) = b.reads y x m ++ b.reads y (x + m) n := by
  rw [reads, ← List.range'_append_1, List.flatMap_append, reads, reads]

theorem reads_one (b : Buffer) (y x : Nat) : b.reads y x 1 = b.textAt x y := by
  simp [reads]

theorem reads_congr (h : ∀ i, x ≤ i → i < x + n → b'.cell? i y = b.cell? i y) :
    b'.reads y x n = b.reads y x n := by
  refine List.flatMap_congr fun i hi => ?_
  obtain ⟨hle, hlt⟩ := List.mem_range'_1.mp hi
  rw [textAt, h i hle hlt, textAt]

/-- What an area shows is not changed by drawing that is apart from it. -/
theorem Shows.kept {t : List Char} (h : b.Shows r t) (hb : ChangesOnly s b b') (hapart : r.Apart s) :
    b'.Shows r t := by
  obtain ⟨y, x, count, hy, hx, hright, hreads⟩ := h
  refine ⟨y, x, count, hy, hx, hright, hreads ▸ reads_congr fun i hi hlt => ?_⟩
  exact hb.cells i y (hapart i y ⟨⟨by omega, by omega⟩, hy⟩)

/-- What a part of an area shows is shown by the area. -/
theorem Shows.mono {t : List Char} (h : b.Shows r t) (hx : s.x ≤ r.x) (hright : r.right ≤ s.right)
    (hy : s.y ≤ r.y) (hbottom : r.bottom ≤ s.bottom) : b.Shows s t := by
  obtain ⟨y, x, count, hrow, hfirst, hlast, hreads⟩ := h
  exact ⟨y, x, count, by omega, by omega, by omega, hreads⟩

theorem ChangesOnly.full (h : ChangesOnly r b b') (hb : b.Full) : b'.Full := by
  rw [Full, h.size, h.width, h.height]
  exact hb

theorem Full.cell (hb : b.Full) (hx : x < b.width) (hy : y < b.height) :
    ∃ c, b.cell? x y = some c := by
  have hlt : y * b.width + x < b.cells.size := by
    rw [hb]
    calc y * b.width + x < y * b.width + b.width := by omega
      _ = b.width * (y + 1) := by rw [Nat.mul_succ, Nat.mul_comm]
      _ ≤ b.width * b.height := Nat.mul_le_mul_left _ hy
  exact ⟨b.cells[y * b.width + x], by rw [cell?, if_pos ⟨hx, hy⟩, Array.getElem?_eq_getElem hlt]⟩

theorem reads_hide (hb : b.Full) (hy : y < b.height) (hwidth : x + n ≤ b.width) :
    (b.hide x y n).reads y x n = List.replicate n ' ' := by
  have hblank : ∀ i ∈ List.range' x n, (b.hide x y n).textAt i y = [' '] := by
    intro i hi
    obtain ⟨hle, hlt⟩ := List.mem_range'_1.mp hi
    obtain ⟨c, hc⟩ := hb.cell (x := i) (by omega) hy
    rw [textAt, hide, cell?_modifyRow, if_pos ⟨⟨hle, hlt⟩, rfl⟩, hc]
    rfl
  rw [reads, List.flatMap_congr hblank, ← List.map_eq_flatMap, List.map_const', List.length_range']

/-- One cell gets a text, and the cells behind it are hidden. -/
theorem reads_placed (hb : b.Full) {f : Cell → Cell} {hidden : Nat} {t : List Char}
    (hy : y < b.height) (hwidth : x + m + hidden < b.width)
    (hf : ∀ c, b.cell? (x + m) y = some c → (f c).text = t) :
    ((b.modify (x + m) y f).hide (x + m + 1) y hidden).reads y x (m + (1 + hidden)) =
      b.reads y x m ++ (t ++ List.replicate hidden ' ') := by
  obtain ⟨c, hc⟩ := hb.cell (x := x + m) (by omega) hy
  rw [reads_add, reads_add, reads_one]
  congr 1
  · refine reads_congr fun i _ hlt => ?_
    rw [hide, cell?_modifyRow, if_neg (by omega), cell?_modify, if_neg (by omega)]
  · congr 1
    · rw [textAt, hide, cell?_modifyRow, if_neg (by omega), cell?_modify, if_pos ⟨rfl, rfl⟩, hc]
      exact hf c hc
    · have hfull : (b.modify (x + m) y f).Full := by
        rw [Full, size_modify, width_modify, height_modify]
        exact hb
      exact reads_hide hfull (by rwa [height_modify]) (by rw [width_modify]; omega)

/-- A glyph that has room is read behind those that were drawn before; one without width joins the
last cell. -/
theorem drawGlyph_reads {left right : Nat} (hright : right ≤ b.width) (hlt : left < right)
    (hy : y < b.height) (hb : b.Full) {g : Glyph} (hfits : left + n + g.width ≤ right) :
    (drawGlyph left y (left + n) false g b).reads y left (max (n + g.width) 1) =
      b.reads y left (max n 1) ++ (g.text ++ List.replicate (g.width - 1) ' ') := by
  rw [drawGlyph, if_neg Bool.false_ne_true]
  obtain rfl | hn := Nat.eq_zero_or_pos n
  · -- so far there is the first cell only, and the glyph joins it
    rw [if_pos (Nat.add_zero left), show max (0 + g.width) 1 = 0 + (1 + (g.width - 1)) by omega,
      reads_placed (t := b.textAt left y ++ g.text) hb hy (by omega) fun c hc => ?_]
    · simp [reads]
    · rw [textAt, show b.cell? left y = some c from hc]
      rfl
  · rw [if_neg (by omega)]
    obtain hzero | hwide := Nat.eq_zero_or_pos g.width
    · -- the glyph joins the last cell
      obtain ⟨m, rfl⟩ : ∃ m, n = m + 1 := ⟨n - 1, by omega⟩
      have hplaced := reads_placed (t := b.textAt (left + m) y ++ g.text) hb hy
        (f := fun c => c.append g.text g.style) (x := left) (m := m)
        (show left + m + 0 < b.width by omega) fun c hc => by
          rw [textAt, hc]
          rfl
      have hsplit : b.reads y left (m + 1) = b.reads y left m ++ b.textAt (left + m) y := by
        rw [reads_add, reads_one]
      rw [if_pos hzero, hzero, Nat.add_zero, show max (m + 1) 1 = m + 1 by omega, hsplit,
        List.append_assoc]
      simpa [hide, modifyRow] using hplaced
    · rw [if_neg hwide.ne', show max (n + g.width) 1 = n + (1 + (g.width - 1)) by omega,
        reads_placed (t := g.text) hb hy (by omega) fun c _ => rfl, show max n 1 = n by omega]

/-- The first glyph is read alone. -/
theorem drawGlyph_reads_first {left right : Nat} (hright : right ≤ b.width) (hlt : left < right)
    (hy : y < b.height) (hb : b.Full) {g : Glyph} (hfits : left + g.width ≤ right) :
    (drawGlyph left y left true g b).reads y left (max g.width 1) =
      g.text ++ List.replicate (g.width - 1) ' ' := by
  have hplaced := reads_placed (t := g.text) hb hy (f := fun c => c.put g.text g.style) (x := left)
    (m := 0) (show left + 0 + (g.width - 1) < b.width by omega) fun c _ => rfl
  rw [show 0 + (1 + (g.width - 1)) = max g.width 1 by omega] at hplaced
  simpa [drawGlyph, reads] using hplaced

/-- So are more glyphs. -/
theorem drawGlyphs_reads {left right : Nat} (hright : right ≤ b.width) (hlt : left < right)
    (hy : y < b.height) (hb : b.Full) {gs : List Glyph} (hfits : left + n + glyphsWidth gs ≤ right) :
    (drawGlyphs left right y (left + n) false gs b).reads y left (max (n + glyphsWidth gs) 1) =
      b.reads y left (max n 1) ++ shownGlyphs gs := by
  induction gs generalizing n b with
  | nil => simp [drawGlyphs, glyphsWidth, shownGlyphs]
  | cons g gs ih =>
      rw [glyphsWidth] at hfits
      have hchange : ChangesOnly ⟨left, y, right - left, 1⟩ b
          (drawGlyph left y (left + n) false g b) :=
        drawGlyph_changesOnly (fun i hi hi' => ⟨⟨hi, show i < left + (right - left) by omega⟩,
          Nat.le_refl y, Nat.lt_succ_self y⟩) hlt (by omega)
          (fun h => absurd h Bool.false_ne_true) (by omega)
      rw [drawGlyphs_cons, if_neg (by omega), glyphsWidth, ← Nat.add_assoc n, Nat.add_assoc left,
        ih (by rwa [hchange.width]) (by rwa [hchange.height]) (hchange.full hb) (by omega),
        drawGlyph_reads hright hlt hy hb (by omega)]
      simp [shownGlyphs]

/-- A span that has room is read from the first column of its area on. -/
theorem drawSpan_reads (area : Rect) (hb : b.Full) (hin : area.right ≤ b.width)
    (hy : area.y < b.height) (hwidth : 0 < area.width) (hheight : 0 < area.height) (sp : Span)
    (hfits : shownWidth sp.text ≤ area.width) :
    ∃ count ≤ area.width, (b.drawSpan area sp).reads area.y area.x count = shownText sp.text := by
  have hinter : (area.inter b.area).x = area.x ∧ (area.inter b.area).y = area.y ∧
      (area.inter b.area).right = area.right ∧ ¬ (area.inter b.area).isEmpty = true := by
    rw [Rect.not_isEmpty]
    simp only [Rect.inter, Buffer.area, Rect.right, Rect.bottom] at hin ⊢
    omega
  obtain ⟨hx, hrow, hright, hroom⟩ := hinter
  rw [drawSpan]
  rw [if_neg hroom, hx, hrow, hright, ← shownGlyphs_glyphs sp {}]
  rw [← glyphsWidth_glyphs sp {}] at hfits
  cases hgs : sp.glyphs {} with
  | nil => exact ⟨0, Nat.zero_le _, rfl⟩
  | cons g gs =>
      rw [hgs, glyphsWidth] at hfits
      have hlt : area.x < area.right := Nat.lt_add_of_pos_right hwidth
      have hend : area.right = area.x + area.width := rfl
      have hchange : ChangesOnly area b (drawGlyph area.x area.y area.x true g b) :=
        drawGlyph_changesOnly (fun i hi hi' => ⟨⟨hi, hi'⟩, Nat.le_refl _,
          Nat.lt_add_of_pos_right hheight⟩) hlt (Nat.le_refl _) (fun _ => rfl) (by omega)
      refine ⟨max (g.width + glyphsWidth gs) 1, by omega, ?_⟩
      rw [drawGlyphs_cons, if_neg (by omega),
        drawGlyphs_reads (by rwa [hchange.width]) hlt (by rwa [hchange.height]) (hchange.full hb)
          (by omega), drawGlyph_reads_first hin hlt hy hb (by omega)]
      simp [shownGlyphs]

/-- The area lies in the grid. -/
def Holds (b : Buffer) (area : Rect) : Prop := area.right ≤ b.width ∧ area.bottom ≤ b.height

theorem Holds.kept {area : Rect} (h : b.Holds area) (hb : ChangesOnly r b b') : b'.Holds area := by
  rw [Holds, hb.width, hb.height]
  exact h

theorem holds_of_within {area : Rect} (h : area.Within b.area) (hwidth : 0 < area.width)
    (hheight : 0 < area.height) : b.Holds area := by
  have hlast := h (area.x + (area.width - 1)) (area.y + (area.height - 1))
    ⟨⟨Nat.le_add_right _ _, by rw [Rect.right]; omega⟩, Nat.le_add_right _ _,
      by rw [Rect.bottom]; omega⟩
  simp only [Rect.Has, Buffer.area, Rect.right, Rect.bottom] at hlast
  constructor <;> simp only [Rect.right, Rect.bottom] <;> omega

theorem Holds.inter_eq {area : Rect} (h : b.Holds area) : area.inter b.area = area := by
  obtain ⟨x, y, width, height⟩ := area
  obtain ⟨hright, hbottom⟩ := h
  simp only [Rect.right, Rect.bottom] at hright hbottom
  simp only [Rect.inter, Buffer.area, Rect.right, Rect.bottom, Rect.mk.injEq]
  omega

/-- The line of a fault shows the fault, behind a blank. -/
theorem drawFault_shows (area : Rect) {fault : String} (hb : b.Full) (hin : b.Holds area)
    (hheight : 0 < area.height) (hvisible : 0 < Text.width fault.toList)
    (hline : 1 + Text.width fault.toList ≤ area.width) (hfits : 1 + shownWidth fault ≤ area.width) :
    (b.drawLine area (HelpText.fault fault).line).Shows area (shownText fault) := by
  let blank : Span := { text := " " }
  let text : Span := { text := fault, style := Theme.bad }
  let row : Rect := { area with height := 1 }
  have hblank : blank.width = 1 := by decide +kernel
  have htext : text.width ≠ 0 := hvisible.ne'
  have hspans : b.drawLine area (HelpText.fault fault).line =
      ((b.paint row {}).drawSpan row blank).drawSpan (row.dropColumns 1) text := by
    have hroom : ¬ (area.isEmpty = true ∨ (HelpText.fault fault).line.width = 0) := by
      rw [not_or, Rect.not_isEmpty]
      exact ⟨⟨by omega, hheight⟩, show blank.width + (text.width + 0) ≠ 0 by omega⟩
    have hrow : ¬ row.isEmpty = true := Rect.not_isEmpty.mpr ⟨by dsimp only [row]; omega, Nat.one_pos⟩
    have hrest : ¬ (row.dropColumns 1).isEmpty = true :=
      Rect.not_isEmpty.mpr ⟨by dsimp only [Rect.dropColumns, row]; omega, Nat.one_pos⟩
    rw [drawLine, hin.inter_eq, if_neg hroom]
    show drawSpans row [blank, text] (b.paint row {}) = _
    rw [drawSpans, if_neg (by omega), if_neg hrow, hblank, drawSpans, if_neg htext, if_neg hrest,
      drawSpans]
  have hchange : ChangesOnly row b ((b.paint row {}).drawSpan row blank) :=
    (paint_changesOnly row {}).trans (drawSpan_changesOnly row blank)
  obtain ⟨hright, hbottom⟩ := hin
  have hend : area.right = area.x + area.width := rfl
  have hlast : area.bottom = area.y + area.height := rfl
  obtain ⟨count, hcount, hreads⟩ := drawSpan_reads (row.dropColumns 1) (hchange.full hb)
    (by rw [hchange.width]; simp only [Rect.right, Rect.dropColumns, row]; omega)
    (by rw [hchange.height]; simp only [Rect.dropColumns, row]; omega)
    (by simp only [Rect.dropColumns, row]; omega) Nat.one_pos text
    (by simp only [Rect.dropColumns, row]; exact Nat.le_sub_of_add_le' hfits)
  refine ⟨area.y, area.x + 1, count, ⟨Nat.le_refl _, by omega⟩, Nat.le_succ _, ?_, ?_⟩
  · have hle : count ≤ area.width - 1 := hcount
    omega
  · rw [hspans]
    exact hreads

/-- What an area of the grid shows is read in a row of the grid. -/
theorem Shows.in_row {area : Rect} {t : List Char} (h : b.Shows area t) (hin : b.Holds area) :
    ∃ y < b.height, t <:+: (b.rowCells y).flatMap Cell.text := by
  obtain ⟨y, x, count, ⟨-, hy⟩, -, hright, hreads⟩ := h
  refine ⟨y, by have := hin.2; omega, ?_⟩
  have hrow : (b.rowCells y).flatMap Cell.text = b.reads y 0 b.width := by
    rw [rowCells, reads, List.range_eq_range', List.filterMap_eq_flatMap_toList, List.flatMap_assoc]
    refine List.flatMap_congr fun x _ => ?_
    rw [textAt]
    cases b.cell? x y <;> simp
  have hsplit : b.width = x + (count + (b.width - (x + count))) := by have := hin.1; omega
  rw [hrow, hsplit, reads_add, reads_add, Nat.zero_add, hreads]
  exact ⟨_, _, (List.append_assoc _ _ _)⟩

end

end Buffer

end FunctionConsole
