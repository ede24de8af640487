import FunctionConsole.Piece.PaletteWindow
import FunctionConsole.Proofs.FlatText
import FunctionConsole.Proofs.PaletteResults
import FunctionConsole.Proofs.Rows

/-!
# The row that has the focus

Two lists are longer than the room they are drawn in and follow a row of theirs: the lines of code
follow the cursor, the matches of the palette the highlighted one. Each is drawn as a window, lines
that follow each other from one on, and which line that is depends on the row that is followed and
on the height of the area, for code also on a scroll that may be left from another text.

What a window shows is `Buffer.ShowsWindow`. That the row is among it is arithmetic
(`CodeView.row_in_window`, `Palette.selected_in_window`), and that there is such a row at all is due
to the invariants of the buffer and of the palette: the cursor stands in a line, and the highlight
on a match. `focused_rows_are_drawn` puts these together.
-/

namespace FunctionConsole

open Buffer (SameRow ShowsWindow)

-- ==================================================== code around its cursor

namespace CodeView

/-- The lines with their numbers, all of them. -/
def allLines (v : CodeView) : List Line := v.lines.zipIdx.map fun (cs, i) => v.line i cs

theorem draw_showsWindow (v : CodeView) (area : Rect) (b : Buffer) :
    ShowsWindow area b (v.draw area b) v.allLines (v.offset area.height) := by
  have hvisible : v.visible area.height =
      (v.allLines.drop (v.offset area.height)).take area.height := by
    rw [visible, allLines, List.map_take, List.map_drop]
  rw [draw, hvisible]
  exact Buffer.drawLines_showsWindow area b _ _

theorem getElem?_allLines (v : CodeView) (i : Nat) :
    v.allLines[i]? = v.lines[i]?.map (v.line i) := by
  rw [allLines, List.getElem?_map, List.getElem?_zipIdx, Option.map_map, Nat.zero_add]
  rfl

/-- Whatever the scroll is, the row of the cursor is neither above the window nor below it. -/
theorem row_in_window {v : CodeView} {row col height : Nat} (hcursor : v.cursor = some (row, col))
    (hheight : 0 < height) : v.offset height ≤ row ∧ row < v.offset height + height := by
  obtain ⟨h, rfl⟩ := Nat.exists_eq_add_one_of_ne_zero (Nat.ne_of_gt hheight)
  have hoffset : v.offset (h + 1) = max (row - h) (min v.scroll row) := by
    simp only [offset, hcursor]
  omega

end CodeView

/-- The lines of a buffer with its cursor, and a scroll that may have been left from before. -/
def TextArea.view (a : TextArea) (scroll : Nat) : CodeView :=
  { lines := a.lines, cursor := some (a.row, a.col), scroll }

theorem TextArea.cursor_row {a : TextArea} (h : a.Sound) (scroll : Nat) :
    (a.view scroll).allLines[a.row]? = some ((a.view scroll).line a.row (a.line a.row)) := by
  rw [CodeView.getElem?_allLines]
  exact congrArg _ (getElem?_line h.row)

-- ==================================================== matches around the highlighted one

namespace Palette

/-- The rows of the matches, all of them. -/
def allLines (p : Palette) (width : Nat) : List Line :=
  p.results.zipIdx.map fun (item, i) => itemLine item (i == p.selected) width

theorem drawResults_showsWindow {p : Palette} (hmessage : p.message? = none) (area : Rect)
    (b : Buffer) : ShowsWindow area b (p.drawResults area b) (p.allLines area.width)
      (offset p.selected area.height) := by
  have hvisible : p.visible area =
      ((p.allLines area.width).drop (offset p.selected area.height)).take area.height := by
    rw [visible, allLines, List.map_take, List.map_drop]
  rw [drawResults, hmessage]
  dsimp only
  rw [hvisible]
  exact Buffer.drawLines_showsWindow area b _ _

theorem getElem?_allLines (p : Palette) (width i : Nat) : (p.allLines width)[i]? =
    p.results[i]?.map fun item => itemLine item (i == p.selected) width := by
  rw [allLines, List.getElem?_map, List.getElem?_zipIdx, Option.map_map, Nat.zero_add]
  rfl

/-- The highlighted match is neither above the window nor below it. -/
theorem selected_in_window (selected : Nat) {height : Nat} (hheight : 0 < height) :
    offset selected height ≤ selected ∧ selected < offset selected height + height := by
  rw [offset, if_neg (Nat.ne_of_gt hheight)]
  omega

theorem message?_eq_none {p : Palette} (h : p.Coherent) (hloading : p.loading = false)
    (hresults : p.results ≠ []) : p.message? = none := by
  have hfiltered : p.filtered ≠ [] := by
    rw [← List.length_pos_iff, ← h.length_results]
    exact List.length_pos_iff.mpr hresults
  rw [message?, hloading]
  simpa using hfiltered

end Palette

/-- In any area that has a row. A buffer that edits have led to, from the empty text or another, is
shown with its cursor, whatever the scroll is: the rows of the area are lines that follow each
other, and one of them is the line with the cursor. And a palette that operations have led to, with
matches and nothing left to load: the rows are matches that follow each other, no more than the area
has rows, and one of them is the highlighted match, drawn as such. -/
theorem focused_rows_are_drawn {area : Rect} (harea : 0 < area.height) (b : Buffer) :
    (∀ (text : String) (edits : List TextArea.Edit) (scroll : Nat),
      let a := edits.foldl TextArea.Edit.apply (TextArea.ofString text)
      let v := a.view scroll
      let line := v.line a.row (a.line a.row)
      ShowsWindow area b (v.draw area b) v.allLines (v.offset area.height) ∧
      v.allLines[a.row]? = some line ∧
      ∃ r < area.height, v.offset area.height + r = a.row ∧
        SameRow (area.y + r) (b.drawLine (area.row r) line) (v.draw area b)) ∧
    ∀ actions : List Palette.Action,
      let p : Palette := actions.foldl Palette.Action.apply {}
      let first := Palette.offset p.selected area.height
      p.loading = false → p.results ≠ [] →
      ShowsWindow area b (p.drawResults area b) (p.allLines area.width) first ∧
      ∃ item, p.selectedItem = some item ∧
        let line := Palette.itemLine item true area.width
        (p.allLines area.width)[p.selected]? = some line ∧
        ∃ r < area.height, first + r = p.selected ∧
          SameRow (area.y + r) (b.drawLine (area.row r) line) (p.drawResults area b) := by
  refine ⟨fun text edits scroll => ?_, fun actions => ?_⟩
  · intro a v line
    have hsound : a.Sound := TextArea.edits_sound (TextArea.ofString_sound text) edits
    have hline : v.allLines[a.row]? = some line := a.cursor_row hsound scroll
    have hwindow := v.draw_showsWindow area b
    exact ⟨hwindow, hline, hwindow.exists_row (CodeView.row_in_window rfl harea) hline⟩
  · intro p first hloading hresults
    have h : p.Coherent := Palette.actions_coherent ⟨rfl, Nat.le_refl _⟩ actions
    obtain ⟨item, hitem⟩ := Option.isSome_iff_exists.mp (h.selectedItem_isSome.mpr hresults)
    have hline : (p.allLines area.width)[p.selected]? =
        some (Palette.itemLine item true area.width) := by
      rw [p.getElem?_allLines, ← h.selectedItem, hitem, Option.map_some, BEq.rfl]
    have hwindow := Palette.drawResults_showsWindow (p.message?_eq_none h hloading hresults) area b
    exact ⟨hwindow, item, hitem, hline,
      hwindow.exists_row (Palette.selected_in_window p.selected harea) hline⟩

/-- An area of one row, with lists of two: the cursor is in the second line, with a scroll left from
further down, and the second match is highlighted. -/
theorem second_rows_are_drawn :
    let area : Rect := ⟨0, 0, 30, 1⟩
    let b := Buffer.blank 30 1
    let a := [TextArea.Edit.key .down].foldl TextArea.Edit.apply (TextArea.ofString "x\ny")
    let p : Palette := [Palette.Action.opened, .setFunctions [], .selectNext].foldl
      Palette.Action.apply {}
    let item : PaletteItem :=
      ⟨"Create Function", "Create a new function", .create, .navigation, false⟩
    0 < area.height ∧ (p.loading = false ∧ p.results ≠ []) ∧ p.selectedItem = some item ∧
      (a.view 7).offset 1 = 1 ∧ SameRow 0
        (b.drawLine (area.row 0) ((a.view 7).line 1 ['y'])) ((a.view 7).draw area b) ∧
      Palette.offset p.selected 1 = 1 ∧ SameRow 0
        (b.drawLine (area.row 0) (Palette.itemLine item true 30)) (p.drawResults area b) := by
  intro area b a p item
  have hp : (p.loading = false ∧ p.results ≠ []) ∧ p.selectedItem = some item := by
    decide +kernel
  obtain ⟨hcode, hpalette⟩ := focused_rows_are_drawn (show 0 < area.height by decide) b
  obtain ⟨-, -, r, hr, -, hrow⟩ := hcode "x\ny" [.key .down] 7
  obtain ⟨-, item', hitem, -, r', hr', -, hrow'⟩ :=
    hpalette [.opened, .setFunctions [], .selectNext] hp.1.1 hp.1.2
  obtain rfl : r = 0 := Nat.lt_one_iff.mp hr
  obtain rfl : r' = 0 := Nat.lt_one_iff.mp hr'
  obtain rfl : item' = item := Option.some.inj (hitem.symm.trans hp.2)
  exact ⟨by decide, hp.1, hp.2, by decide +kernel, hrow, by decide +kernel, hrow'⟩

end FunctionConsole
