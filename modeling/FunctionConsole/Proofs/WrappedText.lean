import FunctionConsole.Proofs.Rows
import FunctionConsole.Proofs.Web.Segments
import FunctionConsole.Proofs.Wrapping

/-!
# Wrapped text on the screen

A wrapped text is drawn row by row: each glyph that takes cells stands in its cell
(`Buffer.drawParagraph_showsRows`), as far as the area has rows. All words of the text are on the
first rows exactly if none comes on a later one (`Paragraph.wordsWithin_iff`); where words stand in
a line with one blank between them, exactly if they are packed into no more rows
(`Paragraph.wordsWithin_of_words`). Of plain text each character is a narrow glyph, so that the
lengths of the words are all that counts (`gappedWords_isWord`, `lengths_gappedWords`).
-/

namespace FunctionConsole

namespace Buffer

-- ==================================================== rows of glyphs

/-- Rows of glyphs stand below each other from a column and a row on: each glyph that takes cells is
in its cell, unless that is behind the end of the grid. -/
def ShowsRows (b : Buffer) (x y : Nat) (rows : List (List Glyph)) : Prop :=
  ∀ (r : Nat) (before after : List Glyph) (g : Glyph), rows[r]? = some (before ++ g :: after) →
    0 < g.width → x + glyphsWidth before < b.width →
      b.textAt (x + glyphsWidth before) (y + r) = g.text

section

variable {b b' : Buffer} {x y : Nat} {rows : List (List Glyph)}

theorem showsRows_nil (b : Buffer) (x y : Nat) : b.ShowsRows x y [] :=
  fun r before after g h => by cases h

/-- What is drawn in other rows leaves them. -/
theorem ShowsRows.kept (h : b.ShowsRows x y rows)
    (hsame : ∀ r < rows.length, SameRow (y + r) b b') : b'.ShowsRows x y rows := by
  intro r before after g hrow hg hx
  have hr := hsame r (List.getElem?_eq_some_iff.mp hrow).1
  rw [hr.width] at hx
  rw [textAt, hr.cells]
  exact h r before after g hrow hg hx

/-- A glyph that is put into its cell stands there when the others behind it are put. -/
theorem textAt_putGlyphs (hb : b.Full) (hy : y < b.height) (before after : List Glyph) {g : Glyph}
    (hg : 0 < g.width) (hx : x + glyphsWidth before < b.width) :
    (putGlyphs y x (before ++ g :: after) b).textAt (x + glyphsWidth before) y = g.text := by
  induction before generalizing x b with
  | nil =>
      have hx' : x < b.width := hx
      have hbehind : ChangesOnly ⟨x + g.width, y, glyphsWidth after, 1⟩
          (b.modify x y fun c => c.put g.text g.style)
          (putGlyphs y (x + g.width) after (b.modify x y fun c => c.put g.text g.style)) :=
        putGlyphs_changesOnly fun i hi hlt => ⟨⟨hi, hlt⟩, Nat.le_refl y, Nat.lt_succ_self y⟩
      have hout : ¬ (Rect.mk (x + g.width) y (glyphsWidth after) 1).Has x y := fun h => by
        have hleft : x + g.width ≤ x := h.1.1
        omega
      obtain ⟨c, hc⟩ := hb.cell hx' hy
      rw [List.nil_append, putGlyphs, if_neg (by omega), glyphsWidth, Nat.add_zero, textAt,
        hbehind.cells x y hout, cell?_modify,
        if_pos ⟨rfl, rfl⟩, hc]
      rfl
  | cons g' before ih =>
      rw [glyphsWidth] at hx ⊢
      rw [List.cons_append, putGlyphs]
      split
      · next hzero =>
        rw [hzero, Nat.zero_add] at hx ⊢
        exact ih hb hy hx
      · rw [← Nat.add_assoc] at hx ⊢
        refine ih ?_ ?_ ?_
        · rw [Full, size_modify, width_modify, height_modify]
          exact hb
        · rwa [height_modify]
        · rwa [width_modify]

end

-- ==================================================== paragraphs

section

variable {b : Buffer} {area : Rect} {p : Paragraph}

/-- A paragraph is drawn within its rows, even where a wide glyph juts out of its columns. -/
theorem drawParagraph_changesOnly_rows (area : Rect) (p : Paragraph) (b : Buffer) :
    ∃ width, ChangesOnly ⟨0, area.y, width, area.height⟩ b (b.drawParagraph area p) := by
  rw [drawParagraph]
  dsimp only
  split
  · exact ⟨0, .refl _ b⟩
  · have hy : (area.inter b.area).y = area.y := Nat.max_zero area.y
    have hheight : (area.inter b.area).height ≤ area.height := by
      simp only [Rect.inter, Buffer.area, Rect.bottom]
      omega
    generalize area.inter b.area = inner at hy hheight ⊢
    let rows := p.rows inner.width
    refine ⟨inner.right + (rows.map glyphsWidth).sum, ?_⟩
    have hpaint : ChangesOnly ⟨0, area.y, inner.right + (rows.map glyphsWidth).sum, area.height⟩ b
        (b.paint inner p.style) := by
      refine (paint_changesOnly inner p.style).mono fun x y h => ?_
      simp only [Rect.Has, Rect.right, Rect.bottom] at h ⊢
      omega
    refine hpaint.trans (ChangesOnly.foldl (fun e he b' => ?_) _)
    have hindex : e.2 < inner.height := by
      have hlt := List.snd_lt_of_mem_zipIdx he
      rw [List.length_take] at hlt
      omega
    have hwidth : glyphsWidth e.1 ≤ (rows.map glyphsWidth).sum :=
      List.le_sum_of_mem (List.mem_map_of_mem
        (List.mem_of_mem_take (List.fst_mem_of_mem_zipIdx he)))
    have hoffset : p.offset inner.width (glyphsWidth e.1) ≤ inner.width := by
      unfold Paragraph.offset
      split <;> omega
    refine putGlyphs_changesOnly fun i hi hlt => ?_
    simp only [Rect.Has, Rect.right, Rect.bottom]
    omega

/-- A paragraph is drawn row by row from the left, as far as the area has rows. -/
theorem drawParagraph_showsRows (hleft : p.align = .left) (hb : b.Full) (hin : b.Holds area)
    (hwidth : 0 < area.width) :
    (b.drawParagraph area p).ShowsRows area.x area.y ((p.rows area.width).take area.height) := by
  obtain hnone | hheight := Nat.eq_zero_or_pos area.height
  · rw [hnone]
    exact showsRows_nil _ _ _
  · intro r before after g hrow hg hx
    have hr : r < area.height := by
      have hlt := (List.getElem?_eq_some_iff.mp hrow).1
      rw [List.length_take] at hlt
      omega
    have hroom : ¬ area.isEmpty = true := Rect.not_isEmpty.mpr ⟨hwidth, hheight⟩
    have hoffset (width : Nat) : p.offset area.width width = 0 := by rw [Paragraph.offset, hleft]
    have hdraw : b.drawParagraph area p =
        (((p.rows area.width).take area.height).zipIdx 0).foldl
          (fun b e => putGlyphs (area.y + e.2) area.x e.1 b) (b.paint area p.style) := by
      rw [drawParagraph, hin.inter_eq]
      dsimp only
      rw [if_neg hroom]
      simp only [hoffset, Nat.add_zero]
    have hfold := foldl_zipIdx_sameRow (k := 0)
      (fun i (row : List Glyph) => putGlyphs_byRows (area.y + i) area.x row)
      (fun i row b y hy => putGlyphs_sameRow hy area.x row b) hrow (b.paint area p.style)
    rw [Nat.zero_add, ← hdraw] at hfold
    have hpaint := paint_changesOnly (b := b) area p.style
    obtain ⟨_, hchange⟩ := drawParagraph_changesOnly_rows area p b
    have hbottom : area.y + area.height ≤ b.height := hin.2
    rw [hchange.width] at hx
    rw [textAt, hfold.cells]
    refine textAt_putGlyphs (hpaint.full hb) ?_ before after hg ?_
    · rw [hpaint.height]
      omega
    · rwa [hpaint.width]

end

end Buffer

-- ==================================================== words within some rows

namespace Paragraph

open Wrap (ink IsGap IsWord pack packedRows)

/-- The glyphs of a paragraph. -/
def glyphs (p : Paragraph) : List Glyph :=
  p.lines.flatMap fun l => ({ l with style := p.style.andThen l.style } : Line).glyphs

/-- All words of a paragraph come on the first of its rows, but for glyphs that are wider than a
row. -/
def WordsWithin (p : Paragraph) (width height : Nat) : Prop :=
  ink ((p.rows width).take height).flatten = ink (p.glyphs.filter fun g => g.width ≤ width)

section

variable {p : Paragraph} {width height : Nat}

theorem rows_of_wrap {trim : Bool} (hwrap : p.wrap = some trim) (width : Nat) :
    p.rows width = p.lines.flatMap fun l =>
      Wrap.rows width trim { l with style := p.style.andThen l.style } := by
  rw [rows, hwrap]

/-- Wrapping loses no word of a paragraph. -/
theorem ink_rows {trim : Bool} (hwrap : p.wrap = some trim) (width : Nat) :
    ink (p.rows width).flatten = ink (p.glyphs.filter fun g => g.width ≤ width) := by
  rw [rows_of_wrap hwrap, glyphs]
  induction p.lines with
  | nil => rfl
  | cons l ls ih =>
      rw [List.flatMap_cons, List.flatten_append, Wrap.ink_append, Wrap.ink_rows, ih,
        List.flatMap_cons, List.filter_append, Wrap.ink_append]

/-- All words come on the first rows exactly if none comes on a later one. -/
theorem wordsWithin_iff {trim : Bool} (hwrap : p.wrap = some trim) : p.WordsWithin width height ↔
    ∀ row ∈ (p.rows width).drop height, ink row = [] := by
  have hsplit : ink (p.rows width).flatten =
      ink ((p.rows width).take height).flatten ++ ink ((p.rows width).drop height).flatten := by
    rw [← Wrap.ink_append, ← List.flatten_append, List.take_append_drop]
  have hnone : ink ((p.rows width).drop height).flatten = [] ↔
      ∀ row ∈ (p.rows width).drop height, ink row = [] := by
    simp only [ink, List.filter_eq_nil_iff, List.mem_flatten]
    constructor
    · exact fun h row hrow g hg => h g ⟨row, hrow, hg⟩
    · rintro h g ⟨row, hrow, hg⟩
      exact h row hrow g hg
  rw [WordsWithin, ← ink_rows hwrap, hsplit, ← hnone]
  exact ⟨fun h => List.self_eq_append_right.mp h, fun h => List.self_eq_append_right.mpr h⟩

theorem wordsWithin_of_length_le {trim : Bool} (hwrap : p.wrap = some trim)
    (h : (p.rows width).length ≤ height) : p.WordsWithin width height := by
  rw [wordsWithin_iff hwrap, List.drop_eq_nil_of_le h]
  exact fun row hrow => absurd hrow List.not_mem_nil

variable {l : Line} {first : List Glyph} {rest : List (Glyph × List Glyph)}

/-- Words in one line with one blank between them come on the first rows exactly if they are packed
into no more. -/
theorem wordsWithin_of_words (hwrap : p.wrap = some true) (hline : p.lines = [l])
    (hfirst : IsWord width first) (hrest : ∀ e ∈ rest, IsGap e.1 ∧ IsWord width e.2)
    (hwords : p.glyphs = first ++ rest.flatMap fun e => e.1 :: e.2) :
    p.rows width = pack width first rest ∧
      (p.WordsWithin width height ↔ (pack width first rest).length ≤ height) := by
  have hrows : p.rows width = pack width first rest := by
    rw [rows_of_wrap hwrap, hline, List.flatMap_singleton]
    rw [glyphs, hline, List.flatMap_singleton] at hwords
    exact Wrap.rows_of_words hfirst hrest hwords
  refine ⟨hrows, ⟨fun h => ?_, fun h => wordsWithin_of_length_le hwrap (hrows ▸ h)⟩⟩
  rw [wordsWithin_iff hwrap, hrows] at h
  by_contra hmore
  have hlt : height < (pack width first rest).length := Nat.lt_of_not_le hmore
  have hmem : (pack width first rest)[height] ∈ (pack width first rest).drop height := by
    rw [List.drop_eq_getElem_cons hlt]
    exact List.mem_cons_self
  exact Wrap.ink_of_mem_pack hfirst.ink_ne_nil (fun e he => (hrest e he).2.ink_ne_nil)
    (List.getElem_mem hlt) (h _ hmem)

/-- A line of glyphs that take cells, with room for all of them, comes on the first row. -/
theorem wordsWithin_of_fits (hwrap : p.wrap = some true) (hline : p.lines = [l])
    (hcells : ∀ g ∈ p.glyphs, 0 < g.width) (hfits : glyphsWidth p.glyphs ≤ width)
    (hheight : 0 < height) : p.WordsWithin width height := by
  rw [glyphs, hline, List.flatMap_singleton] at hcells hfits
  refine wordsWithin_of_length_le hwrap ?_
  rw [rows_of_wrap hwrap, hline, List.flatMap_singleton, Wrap.length_rows_of_fits hcells hfits]
  exact hheight

theorem wordsWithin_of_narrow (hwrap : p.wrap = some true) (hline : p.lines = [l])
    (hnarrow : ∀ g ∈ p.glyphs, g.width = 1) (hfits : p.glyphs.length ≤ width)
    (hheight : 0 < height) : p.WordsWithin width height := by
  have hcells : ∀ g ∈ p.glyphs, 0 < g.width := fun g hg => by
    rw [hnarrow g hg]
    exact Nat.one_pos
  exact wordsWithin_of_fits hwrap hline hcells (Wrap.glyphsWidth_narrow hnarrow ▸ hfits) hheight

end

end Paragraph

-- ==================================================== plain words

namespace Text

/-- A text without line breaks is one line. -/
theorem lines_of_unbroken {s : String} (hne : s.toList ≠ []) (h : '\n' ∉ s.toList) :
    lines s = [s] := by
  have hpieces : splitOnChar (· == '\n') s.toList = [s.toList] :=
    Web.splitOnChar_of_free fun c hc => by
      rw [beq_eq_false_iff_ne]
      rintro rfl
      exact h hc
  simp [lines, hpieces, hne]

end Text

/-- A word of plain text. -/
structure PlainWord (w : List Char) : Prop where
  ne_nil : w ≠ []
  plain : ∀ c ∈ w, isPlain c = true
  unbroken : ' ' ∉ w

instance (w : List Char) : Decidable (PlainWord w) :=
  decidable_of_iff (w ≠ [] ∧ w.all isPlain = true ∧ ' ' ∉ w)
    ⟨fun h => ⟨h.1, List.all_eq_true.mp h.2.1, h.2.2⟩,
      fun h => ⟨h.ne_nil, List.all_eq_true.mpr h.plain, h.unbroken⟩⟩

/-- Words with one blank between them. -/
def spacedWords (first : List Char) (rest : List (List Char)) : List Char :=
  first ++ rest.flatMap fun w => ' ' :: w

/-- Of plain characters only the space is blank. -/
theorem isBlank_of_plain {c : Char} (h : isPlain c = true) (hspace : c ≠ ' ') (st : Style) :
    (Glyph.mk [c] st).isBlank = false := by
  have hall : ∀ n < 0x7F, 0x20 ≤ n → n ≠ 0x20 → (Glyph.mk [Char.ofNat n] {}).isBlank = false := by
    decide +kernel
  simp only [isPlain, Bool.and_eq_true, decide_eq_true_eq] at h
  have hne : c.toNat ≠ 0x20 := fun heq => hspace (by rw [← Char.ofNat_toNat c, heq])
  have hblank := hall c.toNat h.2 h.1 hne
  rw [Char.ofNat_toNat] at hblank
  exact hblank

section

variable {max : Nat} {w : List Char} (st : Style)

theorem PlainWord.narrow (hw : PlainWord w) : ∀ g ∈ w.map fun c => Glyph.mk [c] st, g.width = 1 := by
  intro g hg
  obtain ⟨c, hc, rfl⟩ := List.mem_map.mp hg
  exact (plain_char (hw.plain c hc)).2.1

theorem PlainWord.isWord (hw : PlainWord w) (hfits : w.length ≤ max) :
    Wrap.IsWord max (w.map fun c => Glyph.mk [c] st) where
  ne_nil := fun hnil => hw.ne_nil (List.map_eq_nil_iff.mp hnil)
  visible := by
    intro g hg
    obtain ⟨c, hc, rfl⟩ := List.mem_map.mp hg
    exact isBlank_of_plain (hw.plain c hc) (fun heq => hw.unbroken (heq ▸ hc)) st
  cells := fun g hg => by rw [hw.narrow st g hg]; exact Nat.one_pos
  fits := by rwa [Wrap.glyphsWidth_narrow (hw.narrow st), List.length_map]

theorem space_isGap : Wrap.IsGap ⟨[' '], st⟩ := by
  refine ⟨rfl, ?_⟩
  show Text.width [' '] = 1
  decide +kernel

/-- The words of a text, each with the blank before it. -/
def gappedWords (rest : List (List Char)) : List (Glyph × List Glyph) :=
  rest.map fun w => (⟨[' '], st⟩, w.map fun c => ⟨[c], st⟩)

theorem map_spacedWords (first : List Char) (rest : List (List Char)) :
    (spacedWords first rest).map (fun c => Glyph.mk [c] st) =
      (first.map fun c => Glyph.mk [c] st) ++
        (gappedWords st rest).flatMap fun e => e.1 :: e.2 := by
  rw [spacedWords, List.map_append, List.map_flatMap, gappedWords, List.flatMap_map]
  rfl

variable {rest : List (List Char)}

theorem gappedWords_isWord (h : ∀ w ∈ rest, PlainWord w ∧ w.length ≤ max) :
    ∀ e ∈ gappedWords st rest, Wrap.IsGap e.1 ∧ Wrap.IsWord max e.2 := by
  intro e he
  obtain ⟨w, hw, rfl⟩ := List.mem_map.mp he
  exact ⟨space_isGap st, (h w hw).1.isWord st (h w hw).2⟩

theorem gappedWords_narrow (h : ∀ w ∈ rest, PlainWord w) :
    ∀ e ∈ gappedWords st rest, Wrap.IsGap e.1 ∧ e.2 ≠ [] ∧ ∀ g ∈ e.2, g.width = 1 := by
  intro e he
  obtain ⟨w, hw, rfl⟩ := List.mem_map.mp he
  exact ⟨space_isGap st, fun hnil => (h w hw).ne_nil (List.map_eq_nil_iff.mp hnil),
    (h w hw).narrow st⟩

theorem lengths_gappedWords (rest : List (List Char)) :
    (gappedWords st rest).map (fun e => e.2.length) = rest.map List.length := by
  rw [gappedWords, List.map_map]
  exact List.map_congr_left fun w _ => List.length_map _

end

/-- The characters of plain words and the blanks between them are plain. -/
theorem plain_of_spacedWords {first : List Char} {rest : List (List Char)}
    (h : ∀ w ∈ first :: rest, PlainWord w) : ∀ c ∈ spacedWords first rest, isPlain c = true := by
  intro c hc
  rcases List.mem_append.mp hc with hfirst | hrest
  · exact (h first List.mem_cons_self).plain c hfirst
  · obtain ⟨w, hw, hc⟩ := List.mem_flatMap.mp hrest
    rcases List.mem_cons.mp hc with rfl | hc
    · rfl
    · exact (h w (List.mem_cons_of_mem _ hw)).plain c hc

end FunctionConsole
