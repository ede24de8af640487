import FunctionConsole.Piece.Button
import FunctionConsole.Piece.Card
import FunctionConsole.Piece.Field
import FunctionConsole.Piece.Header
import FunctionConsole.Proofs.Division

/-!
# Drawing stays in its area

Whatever is drawn in an area changes the cells of the area only (`Buffer.ChangesOnly`); the relation
is reflexive and transitive, so that what is drawn in parts of an area changes cells of the area
only.
-/

namespace FunctionConsole

namespace Rect

variable {r s : Rect} {x y : Nat}

theorem has_inter : (r.inter s).Has x y ↔ r.Has x y ∧ s.Has x y := by
  simp only [Has, inter, right, bottom]
  omega

theorem inter_within : (r.inter s).Within r := fun _ _ h => (has_inter.mp h).1

theorem not_isEmpty : ¬ r.isEmpty = true ↔ 0 < r.width ∧ 0 < r.height := by
  simp [isEmpty, Nat.pos_iff_ne_zero]

theorem dropColumns_within (area : Rect) (n : Nat) : (area.dropColumns n).Within area := by
  intro x y h
  simp only [Has, dropColumns, right, bottom] at h ⊢
  omega

theorem row_within {area : Rect} {n : Nat} (h : n < area.height) : (area.row n).Within area := by
  intro x y hxy
  simp only [Has, row, right, bottom] at hxy ⊢
  omega

theorem inset_within (area : Rect) : area.inset.Within area := by
  intro x y h
  simp only [Has, inset, right, bottom] at h ⊢
  omega

end Rect

theorem Box.inner_within (area : Rect) : (Box.inner area).Within area := by
  intro x y h
  simp only [Rect.Has, Box.inner, Rect.right, Rect.bottom] at h ⊢
  omega

namespace Buffer

-- ==================================================== cells after a change

section

variable (b : Buffer) (f : Cell → Cell)

@[simp]
theorem width_modify (x y : Nat) : (b.modify x y f).width = b.width := by
  unfold modify
  split <;> rfl

@[simp]
theorem height_modify (x y : Nat) : (b.modify x y f).height = b.height := by
  unfold modify
  split <;> rfl

@[simp]
theorem size_modify (x y : Nat) : (b.modify x y f).cells.size = b.cells.size := by
  unfold modify
  split <;> simp

theorem cell?_modify (x y x' y' : Nat) : (b.modify x y f).cell? x' y' =
    if x' = x ∧ y' = y then (b.cell? x' y').map f else b.cell? x' y' := by
  unfold modify
  split
  · next hin =>
    unfold cell?
    dsimp only
    split
    · next hin' =>
      rw [Array.getElem?_modify]
      -- cells of the grid have different numbers
      have hiff : y * b.width + x = y' * b.width + x' ↔ x' = x ∧ y' = y := by
        constructor
        · intro heq
          have hx : x = x' := calc
            x = (y * b.width + x) % b.width := (Nat.mul_add_mod_of_lt hin.1).symm
            _ = (y' * b.width + x') % b.width := by rw [heq]
            _ = x' := Nat.mul_add_mod_of_lt hin'.1
          have hpos : 0 < b.width := Nat.zero_lt_of_lt hin.1
          exact ⟨hx.symm, Nat.eq_of_mul_eq_mul_right hpos (by omega)⟩
        · rintro ⟨rfl, rfl⟩
          rfl
      simp only [hiff]
    · simp
  · next hout =>
    split
    · next heq =>
      obtain ⟨rfl, rfl⟩ := heq
      rw [cell?, if_neg hout]
      rfl
    · rfl

theorem cell?_modifyRow (y count x x' y' : Nat) : (modifyRow f y count x b).cell? x' y' =
    if (x ≤ x' ∧ x' < x + count) ∧ y' = y then (b.cell? x' y').map f else b.cell? x' y' := by
  induction count generalizing x b with
  | zero => rw [modifyRow, if_neg (by omega)]
  | succ n ih =>
      rw [modifyRow, ih, cell?_modify]
      by_cases hfirst : x' = x ∧ y' = y
      · rw [if_neg (by omega), if_pos hfirst, if_pos (by omega)]
      · rw [if_neg hfirst]
        exact if_congr (by omega) rfl rfl

end

-- ==================================================== changes of an area

/-- A grid after a change that is within an area. -/
structure ChangesOnly (r : Rect) (b b' : Buffer) : Prop where
  width : b'.width = b.width
  height : b'.height = b.height
  size : b'.cells.size = b.cells.size
  cells : ∀ x y, ¬ r.Has x y → b'.cell? x y = b.cell? x y

section

variable {r s : Rect} {b b' b'' : Buffer} {f : Cell → Cell}

theorem ChangesOnly.refl (r : Rect) (b : Buffer) : ChangesOnly r b b :=
  ⟨rfl, rfl, rfl, fun _ _ _ => rfl⟩

theorem ChangesOnly.trans (h : ChangesOnly r b b') (h' : ChangesOnly r b' b'') :
    ChangesOnly r b b'' :=
  ⟨h'.width.trans h.width, h'.height.trans h.height, h'.size.trans h.size,
    fun x y hxy => (h'.cells x y hxy).trans (h.cells x y hxy)⟩

theorem ChangesOnly.mono (h : ChangesOnly r b b') (hr : r.Within s) : ChangesOnly s b b' :=
  ⟨h.width, h.height, h.size, fun x y hxy => h.cells x y fun hin => hxy (hr x y hin)⟩

theorem ChangesOnly.area (h : ChangesOnly r b b') : b'.area = b.area := by
  rw [Buffer.area, h.width, h.height, Buffer.area]

/-- One change after another, each within the area. -/
theorem ChangesOnly.foldl {α : Type} {l : List α} {step : Buffer → α → Buffer}
    (h : ∀ a ∈ l, ∀ b, ChangesOnly r b (step b a)) (b : Buffer) :
    ChangesOnly r b (l.foldl step b) := by
  induction l generalizing b with
  | nil => exact .refl r b
  | cons a rest ih =>
      exact (h a List.mem_cons_self b).trans
        (ih (fun a' ha' => h a' (List.mem_cons_of_mem _ ha')) _)

theorem modify_changesOnly {x y : Nat} (h : r.Has x y) : ChangesOnly r b (b.modify x y f) := by
  refine ⟨width_modify b f x y, height_modify b f x y, size_modify b f x y, fun x' y' hout => ?_⟩
  rw [cell?_modify, if_neg]
  rintro ⟨rfl, rfl⟩
  exact hout h

theorem modifyRow_changesOnly {y count x : Nat} (h : ∀ i, x ≤ i → i < x + count → r.Has i y) :
    ChangesOnly r b (modifyRow f y count x b) := by
  induction count generalizing x b with
  | zero => exact .refl r b
  | succ n ih =>
      exact (modify_changesOnly (h x (Nat.le_refl x) (by omega))).trans
        (ih fun i hi hlt => h i (by omega) (by omega))

theorem modifyRows_changesOnly {x width count y : Nat}
    (h : ∀ i j, x ≤ i → i < x + width → y ≤ j → j < y + count → r.Has i j) :
    ChangesOnly r b (modifyRows f x width count y b) := by
  induction count generalizing y b with
  | zero => exact .refl r b
  | succ n ih =>
      exact (modifyRow_changesOnly fun i hi hlt => h i y hi hlt (Nat.le_refl y) (by omega)).trans
        (ih fun i j hi hlt hj hltj => h i j hi hlt (by omega) (by omega))

theorem modifyArea_changesOnly (r : Rect) : ChangesOnly r b (b.modifyArea r f) := by
  have hrows : ChangesOnly (r.inter b.area) b (b.modifyArea r f) :=
    modifyRows_changesOnly fun i j hi hlt hj hltj => ⟨⟨hi, hlt⟩, hj, hltj⟩
  exact hrows.mono Rect.inter_within

theorem paint_changesOnly (r : Rect) (st : Style) : ChangesOnly r b (b.paint r st) :=
  modifyArea_changesOnly r

-- ==================================================== lines

/-- The grid after one glyph: the first is put, one at the start or without width joins the cell
before it, and the cells that a wide one takes are hidden. -/
def drawGlyph (left y x : Nat) (first : Bool) (g : Glyph) (b : Buffer) : Buffer :=
  (if first then b.modify x y fun c => c.put g.text g.style
    else if x = left then b.modify x y fun c => c.append g.text g.style
    else if g.width = 0 then b.modify (x - 1) y fun c => c.append g.text g.style
    else b.modify x y fun c => c.put g.text g.style).hide (x + 1) y (g.width - 1)

theorem drawGlyphs_cons (left right y x : Nat) (first : Bool) (g : Glyph) (gs : List Glyph)
    (b : Buffer) : drawGlyphs left right y x first (g :: gs) b =
      if right < x + g.width then b
      else drawGlyphs left right y (x + g.width) false gs (drawGlyph left y x first g b) := rfl

theorem drawGlyph_changesOnly {left right y x : Nat} {first : Bool} {g : Glyph}
    (h : ∀ i, left ≤ i → i < right → r.Has i y) (hlt : left < right) (hx : left ≤ x)
    (hfirst : first = true → x = left) (hfits : x + g.width ≤ right) :
    ChangesOnly r b (drawGlyph left y x first g b) := by
  have hhide (b : Buffer) : ChangesOnly r b (b.hide (x + 1) y (g.width - 1)) :=
    modifyRow_changesOnly fun i hi hi' => h i (by omega) (by omega)
  refine ChangesOnly.trans ?_ (hhide _)
  split
  · next hstart =>
    have hleft := hfirst hstart
    exact modify_changesOnly (h x hx (by omega))
  · split
    · exact modify_changesOnly (h x hx (by omega))
    · split
      · exact modify_changesOnly (h (x - 1) (by omega) (by omega))
      · exact modify_changesOnly (h x hx (by omega))

/-- Glyphs are drawn between the first column and the last. -/
theorem drawGlyphs_changesOnly {left right y x : Nat} {first : Bool} {gs : List Glyph}
    (h : ∀ i, left ≤ i → i < right → r.Has i y) (hlt : left < right) (hx : left ≤ x)
    (hfirst : first = true → x = left) :
    ChangesOnly r b (drawGlyphs left right y x first gs b) := by
  induction gs generalizing x first b with
  | nil => exact .refl r b
  | cons g gs ih =>
      rw [drawGlyphs_cons]
      split
      · exact .refl r b
      · next hfits =>
        exact (drawGlyph_changesOnly h hlt hx hfirst (by omega)).trans (ih (by omega) nofun)

theorem drawSpan_changesOnly (area : Rect) (sp : Span) : ChangesOnly area b (b.drawSpan area sp) := by
  rw [drawSpan]
  split
  · exact .refl area b
  · next hroom =>
    obtain ⟨hwidth, hheight⟩ := Rect.not_isEmpty.mp hroom
    refine ChangesOnly.mono (drawGlyphs_changesOnly (r := area.inter b.area) (fun i hi hlt => ?_)
      (Nat.lt_add_of_pos_right hwidth) (Nat.le_refl _) fun _ => rfl) Rect.inter_within
    exact ⟨⟨hi, hlt⟩, Nat.le_refl _, Nat.lt_add_of_pos_right hheight⟩

theorem drawSpans_changesOnly (area : Rect) (ss : List Span) :
    ChangesOnly area b (drawSpans area ss b) := by
  induction ss generalizing area b with
  | nil => exact .refl area b
  | cons sp ss ih =>
      rw [drawSpans]
      split
      · exact ih area
      · split
        · exact .refl area b
        · exact (drawSpan_changesOnly area sp).trans
            ((ih (area.dropColumns sp.width)).mono (Rect.dropColumns_within area _))

theorem drawLine_changesOnly (area : Rect) (l : Line) : ChangesOnly area b (b.drawLine area l) := by
  rw [drawLine]
  dsimp only
  split
  · exact .refl area b
  · next hroom =>
    have hrow : ({ area.inter b.area with height := 1 } : Rect).Within area := by
      have hheight := (Rect.not_isEmpty.mp fun h => hroom (.inl h)).2
      intro x y h
      refine Rect.inter_within (s := b.area) x y ?_
      simp only [Rect.Has, Rect.right, Rect.bottom] at h ⊢
      omega
    exact ((paint_changesOnly _ _).trans (drawSpans_changesOnly _ _)).mono hrow

theorem drawLines_changesOnly (area : Rect) (ls : List Line) :
    ChangesOnly area b (b.drawLines area ls) := by
  rw [drawLines]
  dsimp only
  refine ChangesOnly.foldl (fun e he b' => ?_) b
  have hlt : e.2 < (area.inter b.area).height := by
    have := List.snd_lt_of_mem_zipIdx he
    rw [List.length_take] at this
    omega
  exact (drawLine_changesOnly _ e.1).mono ((Rect.row_within hlt).trans Rect.inter_within)

-- ==================================================== paragraphs

/-- Glyphs are put between a column and the one behind them. -/
theorem putGlyphs_changesOnly {y x : Nat} {gs : List Glyph}
    (h : ∀ i, x ≤ i → i < x + glyphsWidth gs → r.Has i y) :
    ChangesOnly r b (putGlyphs y x gs b) := by
  induction gs generalizing x b with
  | nil => exact .refl r b
  | cons g gs ih =>
      rw [glyphsWidth] at h
      rw [putGlyphs]
      split
      · next hzero => exact ih fun i hi hlt => h i hi (by omega)
      · next hwide =>
        exact (modify_changesOnly (h x (Nat.le_refl x) (by omega))).trans
          (ih fun i hi hlt => h i (by omega) (by omega))

/-- Glyphs that are cut fit. -/
theorem glyphsWidth_cutGlyphs {max taken : Nat} (h : taken ≤ max) (gs : List Glyph) :
    taken + glyphsWidth (cutGlyphs max taken gs) ≤ max := by
  induction gs generalizing taken with
  | nil => exact h
  | cons g gs ih =>
      rw [cutGlyphs]
      split
      · exact ih h
      · split
        · exact h
        · next hfits =>
          have hrest := ih (show taken + g.width ≤ max by omega)
          rw [glyphsWidth]
          omega

/-- A row that fits stays within the columns, wherever it is aligned. -/
theorem offset_add_le (p : Paragraph) {max width : Nat} (h : width ≤ max) :
    p.offset max width + width ≤ max := by
  unfold Paragraph.offset
  split <;> omega

theorem drawParagraph_changesOnly (area : Rect) {p : Paragraph} (hp : p.wrap = none) :
    ChangesOnly area b (b.drawParagraph area p) := by
  rw [drawParagraph]
  dsimp only
  split
  · exact .refl area b
  · next hroom =>
    obtain ⟨hwidth, hheight⟩ := Rect.not_isEmpty.mp hroom
    refine ChangesOnly.mono ?_ (Rect.inter_within (s := b.area))
    refine (paint_changesOnly _ _).trans (ChangesOnly.foldl (fun e he b' => ?_) _)
    have hindex : e.2 < (area.inter b.area).height := by
      have := List.snd_lt_of_mem_zipIdx he
      rw [List.length_take] at this
      omega
    have hrow : glyphsWidth e.1 ≤ (area.inter b.area).width := by
      have hmem := List.mem_of_mem_take (List.fst_mem_of_mem_zipIdx he)
      rw [Paragraph.rows, hp] at hmem
      obtain ⟨l, -, hl⟩ := List.mem_map.mp hmem
      have hcut := glyphsWidth_cutGlyphs (Nat.zero_le (area.inter b.area).width)
        ({ l with style := p.style.andThen l.style } : Line).glyphs
      rw [hl] at hcut
      omega
    have hoffset := offset_add_le p hrow
    refine putGlyphs_changesOnly fun i hi hlt => ?_
    simp only [Rect.Has, Rect.right, Rect.bottom]
    omega

-- ==================================================== boxes

theorem drawEdges_changesOnly {area : Rect} (hwidth : 0 < area.width) (hheight : 0 < area.height)
    (st : Style) : ChangesOnly area b (b.drawEdges area st) := by
  have hside {side : Rect} (h : side.Within area) (f : Cell → Cell) (b : Buffer) :
      ChangesOnly area b (b.modifyArea side f) := (modifyArea_changesOnly side).mono h
  have hcorner {x y : Nat} (h : area.Has x y) (f : Cell → Cell) (b : Buffer) :
      ChangesOnly area b (b.modify x y f) := modify_changesOnly h
  rw [drawEdges]
  dsimp only
  refine (((((((hside ?_ _ _).trans (hside ?_ _ _)).trans (hside ?_ _ _)).trans (hside ?_ _ _)).trans
    (hcorner ?_ _ _)).trans (hcorner ?_ _ _)).trans (hcorner ?_ _ _)).trans (hcorner ?_ _ _)
  case refine_1 | refine_2 | refine_3 | refine_4 =>
      intro x y h
      simp only [Rect.Has, Rect.right, Rect.bottom] at h ⊢
      omega
  all_goals
    simp only [Rect.Has, Rect.right, Rect.bottom]
    omega

theorem drawBox_changesOnly (area : Rect) (box : Box) : ChangesOnly area b (b.drawBox area box) := by
  rw [drawBox]
  dsimp only
  split
  · exact .refl area b
  · next hroom =>
    obtain ⟨hwidth, hheight⟩ := Rect.not_isEmpty.mp hroom
    refine ChangesOnly.mono ?_ (Rect.inter_within (s := b.area))
    have hedges := (paint_changesOnly (b := b) (area.inter b.area) box.style).trans
      (drawEdges_changesOnly hwidth hheight box.border)
    split
    · exact hedges
    · next title _ =>
      refine hedges.trans ((drawLine_changesOnly _ _).mono fun x y h => ?_)
      simp only [Rect.Has, Rect.row, Rect.right, Rect.bottom] at h ⊢
      omega

/-- There is nothing to change outside the grid. -/
theorem ChangesOnly.grid (h : ChangesOnly r b b') : ChangesOnly b.area b b' := by
  refine ⟨h.width, h.height, h.size, fun x y hout => ?_⟩
  have hcell : ¬ (x < b.width ∧ y < b.height) := fun hin => hout
    ⟨⟨Nat.zero_le _, show x < 0 + b.width by omega⟩, Nat.zero_le _, show y < 0 + b.height by omega⟩
  rw [cell?, cell?, h.width, h.height, if_neg hcell, if_neg hcell]

end

end Buffer

-- ==================================================== pieces

section

variable (area : Rect) (b : Buffer)

theorem Card.inner_within (c : Card) : (c.inner area).Within area := by
  refine Rect.Within.trans ?_ (Box.inner_within area)
  unfold Card.inner
  dsimp only
  split
  · intro x y h
    simp only [Rect.Has, Rect.right, Rect.bottom] at h ⊢
    omega
  · exact fun _ _ h => h

theorem Card.draw_changesOnly (c : Card) : b.ChangesOnly area (c.draw area b) := by
  unfold Card.draw
  have hbox := Buffer.drawBox_changesOnly (b := b) area c.box
  dsimp only
  split
  · split
    · next hroom =>
      exact hbox.trans ((Buffer.drawLine_changesOnly _ _).mono
        ((Rect.row_within (Nat.zero_lt_of_lt hroom)).trans (Box.inner_within area)))
    · exact hbox
  · exact hbox

theorem Button.draw_changesOnly (button : Button) : b.ChangesOnly area (button.draw area b) :=
  Buffer.drawParagraph_changesOnly area rfl

theorem CodeView.draw_changesOnly (v : CodeView) : b.ChangesOnly area (v.draw area b) :=
  Buffer.drawLines_changesOnly area _

theorem KeyHints.draw_changesOnly (h : KeyHints) : b.ChangesOnly area (h.draw area b) :=
  Buffer.drawLine_changesOnly area _

/-- The box of a field and what stands in it. -/
def InputField.drawInput (f : InputField) (area : Rect) (b : Buffer) : Buffer :=
  let box := { area with height := min InputField.boxHeight area.height }
  (b.drawBox box (fieldBox f.label f.focused f.help)).drawLine (Box.inner box) f.content

theorem InputField.draw_eq (f : InputField) : f.draw area b =
    match f.help with
    | some help =>
      if boxHeight < area.height then (f.drawInput area b).drawLine (area.row boxHeight) help.line
      else f.drawInput area b
    | none => f.drawInput area b := rfl

theorem InputField.drawInput_changesOnly (f : InputField) :
    b.ChangesOnly area (f.drawInput area b) := by
  have hbox : ({ area with height := min boxHeight area.height } : Rect).Within area := by
    intro x y h
    simp only [Rect.Has, Rect.right, Rect.bottom] at h ⊢
    omega
  exact ((Buffer.drawBox_changesOnly _ _).mono hbox).trans
    ((Buffer.drawLine_changesOnly _ _).mono ((Box.inner_within _).trans hbox))

theorem InputField.draw_changesOnly (f : InputField) : b.ChangesOnly area (f.draw area b) := by
  have hinput := f.drawInput_changesOnly area b
  rw [InputField.draw_eq]
  split
  · split
    · next hroom =>
      exact hinput.trans ((Buffer.drawLine_changesOnly _ _).mono (Rect.row_within hroom))
    · exact hinput
  · exact hinput

/-- The bar at the top changes some cells of the grid. -/
theorem TrailBar.draw_changesOnly (trail : List String) (search : Bool) :
    b.ChangesOnly b.area (TrailBar.draw trail search area b) := by
  have hline := (Buffer.drawLine_changesOnly (b := b) area (line trail)).grid
  unfold TrailBar.draw
  dsimp only
  split
  · exact .refl _ b
  · split
    · have hhint := Buffer.drawLine_changesOnly (b := b.drawLine area (line trail))
        { area.row 0 with x := area.right - hint.width, width := hint.width } hint
      exact hline.trans (hline.area ▸ hhint.grid)
    · exact hline

end

end FunctionConsole
