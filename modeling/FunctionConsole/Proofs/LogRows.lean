import FunctionConsole.Frame.Execution
import FunctionConsole.Proofs.Rows
import FunctionConsole.Proofs.Scrolling

/-!
# The rows of logs

Logs are scrolled by lines, but a line takes as many rows as it is wrapped to. The scroll goes no
further than to the line with which the rest would fill the area, if each took one row
(`LogView.offset`); so what follows a wrapped line there is pushed out of the area and cannot be
brought into it. `begins_iff` says which lines begin in the area, and
`ExecutionScreen.lines_that_come_on_screen` which lines the keys can bring there.
-/

namespace FunctionConsole

open Buffer

-- ==================================================== rows of one line

namespace Wrap

/-- A line has a row, even without glyphs. -/
theorem rows_ne_nil (max : Nat) (trim : Bool) (l : Line) : rows max trim l ≠ [] := by
  unfold rows State.finish
  extract_lets
  split
  · exact List.cons_ne_nil _ _
  · next h => exact fun hnil => h (List.isEmpty_iff.mpr hnil)

end Wrap

namespace LogView

/-- The rows of a log line. -/
def rowsOf (zone : TimeZone) (width : Nat) (l : ExecutionLog) : List (List Glyph) :=
  Wrap.rows width false { line zone l with style := ({} : Style).andThen (line zone l).style }

/-- The rows that log lines take together. -/
def rowCount (zone : TimeZone) (width : Nat) (ls : List ExecutionLog) : Nat :=
  (ls.map fun l => (rowsOf zone width l).length).sum

/-- The rows of the lines from a first one on, up to another line. -/
def rowsBetween (zone : TimeZone) (width : Nat) (ls : List ExecutionLog) (first i : Nat) : Nat :=
  rowCount zone width ((ls.drop first).take (i - first))

section

variable (zone : TimeZone) (width : Nat)

/-- Each line has a first row. -/
theorem exists_first_row (l : ExecutionLog) : ∃ row, (rowsOf zone width l)[0]? = some row :=
  ⟨_, List.getElem?_eq_getElem (List.length_pos_iff.mpr (Wrap.rows_ne_nil _ _ _))⟩

theorem rowCount_cons (l : ExecutionLog) (ls : List ExecutionLog) :
    rowCount zone width (l :: ls) = (rowsOf zone width l).length + rowCount zone width ls := by
  rw [rowCount, List.map_cons, List.sum_cons, rowCount]

theorem rowCount_append (ls ls' : List ExecutionLog) :
    rowCount zone width (ls ++ ls') = rowCount zone width ls + rowCount zone width ls' := by
  rw [rowCount, List.map_append, List.sum_append, rowCount, rowCount]

theorem rowsBetween_self (ls : List ExecutionLog) (i : Nat) :
    rowsBetween zone width ls i i = 0 := by
  rw [rowsBetween, Nat.sub_self, List.take_zero]
  rfl

/-- Lines further up push a line down. -/
theorem rowsBetween_le (ls : List ExecutionLog) {first first' i i' : Nat} (hfirst : first ≤ first')
    (hi : i ≤ i') : rowsBetween zone width ls first' i ≤ rowsBetween zone width ls first i' := by
  by_cases hempty : i ≤ first'
  · rw [rowsBetween, Nat.sub_eq_zero_of_le hempty, List.take_zero]
    exact Nat.zero_le _
  · -- the lines up to the later one are those before the other first line, its own, and more
    have hsplit : (ls.drop first).take (i' - first) =
        (ls.drop first).take (first' - first) ++
          ((ls.drop first').take (i - first') ++ ((ls.drop i).take (i' - i))) := by
      have hrest : ((ls.drop first').take (i - first') ++ ((ls.drop i).take (i' - i))) =
          (ls.drop first').take (i' - first') := by
        have hmore := List.take_add (l := ls.drop first') (i := i - first') (j := i' - i)
        rw [List.drop_drop, show first' + (i - first') = i by omega,
          show i - first' + (i' - i) = i' - first' by omega] at hmore
        exact hmore.symm
      have hmore := List.take_add (l := ls.drop first) (i := first' - first) (j := i' - first')
      rw [List.drop_drop, show first + (first' - first) = first' by omega,
        show first' - first + (i' - first') = i' - first by omega] at hmore
      rw [hrest, hmore]
    rw [rowsBetween, rowsBetween, hsplit, rowCount_append, rowCount_append]
    omega

-- ==================================================== rows of several lines

/-- The rows of log lines that are numbered from a number on, each with the number of its line and
its own number among the rows of the line. -/
def numberedRows (ls : List ExecutionLog) (first : Nat) : List ((Nat × Nat) × List Glyph) :=
  (ls.zipIdx first).flatMap fun e =>
    (rowsOf zone width e.1).zipIdx.map fun row => ((e.2, row.2), row.1)

theorem numberedRows_cons (l : ExecutionLog) (ls : List ExecutionLog) (first : Nat) :
    numberedRows zone width (l :: ls) first =
      (rowsOf zone width l).zipIdx.map (fun row => ((first, row.2), row.1)) ++
        numberedRows zone width ls (first + 1) := by
  rw [numberedRows, List.zipIdx_cons, List.flatMap_cons, numberedRows]

theorem map_numberedRows (ls : List ExecutionLog) (first : Nat) :
    (numberedRows zone width ls first).map Prod.snd = ls.flatMap (rowsOf zone width) := by
  induction ls generalizing first with
  | nil => rfl
  | cons l ls ih =>
      have hrows :
          ((rowsOf zone width l).zipIdx.map fun row => ((first, row.2), row.1)).map Prod.snd =
            rowsOf zone width l := by
        rw [List.map_map]
        exact List.zipIdx_map_fst 0 _
      rw [numberedRows_cons, List.map_append, hrows, ih, List.flatMap_cons]

/-- A row of a line stands behind all rows of the lines before, and the rows of its own line before
it. -/
theorem getElem?_numberedRows (ls : List ExecutionLog) (first : Nat) {r i j : Nat}
    {row : List Glyph} : (numberedRows zone width ls first)[r]? = some ((i, j), row) ↔
      first ≤ i ∧ r = rowCount zone width (ls.take (i - first)) + j ∧
        ∃ l, ls[i - first]? = some l ∧ (rowsOf zone width l)[j]? = some row := by
  induction ls generalizing first r with
  | nil => simp [numberedRows]
  | cons l ls ih =>
      rw [numberedRows_cons]
      by_cases hr : r < (rowsOf zone width l).length
      · rw [List.getElem?_append_left (by rwa [List.length_map, List.length_zipIdx])]
        rw [List.getElem?_map, List.getElem?_zipIdx, Nat.zero_add]
        constructor
        · intro h
          obtain ⟨e, he, heq⟩ := Option.map_eq_some_iff.mp h
          obtain ⟨row', hrow', rfl⟩ := Option.map_eq_some_iff.mp he
          cases heq
          refine ⟨Nat.le_refl _, ?_, l, ?_, hrow'⟩
          · rw [Nat.sub_self, List.take_zero]
            exact (Nat.zero_add r).symm
          · rw [Nat.sub_self]
            rfl
        · rintro ⟨hi, hsum, l', hl', hrow'⟩
          obtain hfirst | ⟨n, hn⟩ : i - first = 0 ∨ ∃ n, i - first = n + 1 := by
            cases i - first with
            | zero => exact .inl rfl
            | succ n => exact .inr ⟨n, rfl⟩
          · have hi' : i = first := by omega
            subst hi'
            rw [hfirst] at hl' hsum
            cases hl'
            have hj : r = j := hsum.trans (Nat.zero_add j)
            rw [hj, hrow']
            rfl
          · rw [hn, List.take_succ_cons, rowCount_cons] at hsum
            omega
      · rw [List.getElem?_append_right (by rw [List.length_map, List.length_zipIdx]; omega),
          List.length_map, List.length_zipIdx, ih]
        constructor
        · rintro ⟨hi, hsum, l', hl', hrow'⟩
          have hn : i - first = (i - (first + 1)) + 1 := by omega
          refine ⟨by omega, ?_, l', ?_, hrow'⟩
          · rw [hn, List.take_succ_cons, rowCount_cons]
            omega
          · rw [hn]
            exact hl'
        · rintro ⟨hi, hsum, l', hl', hrow'⟩
          obtain hfirst | hn : i - first = 0 ∨ i - first = (i - (first + 1)) + 1 := by omega
          · -- the first line has no such row
            rw [hfirst] at hl' hsum
            cases hl'
            have hj : j < (rowsOf zone width l).length := (List.getElem?_eq_some_iff.mp hrow').1
            have hr' : r = 0 + j := hsum
            omega
          · rw [hn] at hl' hsum
            rw [List.take_succ_cons, rowCount_cons] at hsum
            exact ⟨by omega, by omega, l', hl', hrow'⟩

end

-- ==================================================== the rows that are drawn

section

variable (v : LogView) {area : Rect} {b : Buffer}

/-- The numbered rows that are drawn in so many rows of so many columns. -/
def drawnRows (width height : Nat) : List ((Nat × Nat) × List Glyph) :=
  (numberedRows v.zone width (v.logs.drop (v.offset height)) (v.offset height)).take height

theorem map_drawnRows (h : v.logs ≠ []) (width height : Nat) :
    (v.drawnRows width height).map Prod.snd = ((v.paragraph height).rows width).take height := by
  have hsome : ¬ v.logs.isEmpty = true := fun hnil => h (List.isEmpty_iff.mp hnil)
  rw [drawnRows, List.map_take, map_numberedRows, paragraph, if_neg hsome]
  show _ = (List.flatMap _ (List.map (line v.zone) _)).take height
  rw [List.flatMap_map]
  rfl

theorem getElem?_drawnRows {width height r i j : Nat} {row : List Glyph} :
    (v.drawnRows width height)[r]? = some ((i, j), row) ↔
      r < height ∧ v.offset height ≤ i ∧
        r = rowsBetween v.zone width v.logs (v.offset height) i + j ∧
        ∃ l, v.logs[i]? = some l ∧ (rowsOf v.zone width l)[j]? = some row := by
  by_cases hr : r < height
  · rw [drawnRows, List.getElem?_take_of_lt hr, getElem?_numberedRows]
    simp only [hr, true_and]
    refine and_congr_right fun hi => ?_
    rw [List.getElem?_drop, Nat.add_sub_cancel' hi, rowsBetween]
  · rw [drawnRows, List.getElem?_take, if_neg hr]
    simp [hr]

/-- The rows of the paragraph are put one below the other, each from the first column on. -/
theorem draw_eq_foldl (hin : b.Holds area) (hwidth : 0 < area.width) (hheight : 0 < area.height)
    (hlogs : v.logs ≠ []) : v.draw area b =
      (((v.drawnRows area.width area.height).map Prod.snd).zipIdx 0).foldl
        (fun b e => putGlyphs (area.y + e.2) area.x e.1 b) b := by
  have hroom : ¬ area.isEmpty = true := Rect.not_isEmpty.mpr ⟨hwidth, hheight⟩
  have hstyle : (v.paragraph area.height).style = {} := by
    unfold paragraph
    split <;> rfl
  have hleft (width : Nat) : (v.paragraph area.height).offset area.width width = 0 := by
    unfold paragraph
    split <;> rfl
  rw [draw, drawParagraph, hin.inter_eq]
  dsimp only
  rw [if_neg hroom, hstyle, paint_nothing, v.map_drawnRows hlogs]
  simp only [hleft, Nat.add_zero]

/-- A row of the area is drawn as the row of its line. -/
theorem draw_row (hin : b.Holds area) (hwidth : 0 < area.width) {r i j : Nat} {row : List Glyph}
    (h : (v.drawnRows area.width area.height)[r]? = some ((i, j), row)) :
    SameRow (area.y + r) (putGlyphs (area.y + r) area.x row b) (v.draw area b) := by
  obtain ⟨hr, -, -, l, hl, -⟩ := v.getElem?_drawnRows.mp h
  have hlogs : v.logs ≠ [] := fun hnil => by
    rw [hnil] at hl
    cases hl
  have hrow : ((v.drawnRows area.width area.height).map Prod.snd)[r]? = some row := by
    rw [List.getElem?_map, h]
    rfl
  have hfold := foldl_zipIdx_sameRow (k := 0)
    (fun i (row : List Glyph) => putGlyphs_byRows (area.y + i) area.x row)
    (fun i row b y hy => putGlyphs_sameRow hy area.x row b) hrow b
  rw [Nat.zero_add] at hfold
  rw [v.draw_eq_foldl hin hwidth (Nat.zero_lt_of_lt hr) hlogs]
  exact hfold

/-- A row of the area for which no row is left stays as it was. -/
theorem draw_rest (hin : b.Holds area) (hwidth : 0 < area.width) (hheight : 0 < area.height)
    (hlogs : v.logs ≠ []) {r : Nat} (h : (v.drawnRows area.width area.height)[r]? = none) :
    SameRow (area.y + r) b (v.draw area b) := by
  rw [v.draw_eq_foldl hin hwidth hheight hlogs]
  refine sameRow_foldl_zipIdx (fun i row b y hy => putGlyphs_sameRow hy area.x row b) _ 0 b ?_
  intro i _ hi
  rw [List.length_map] at hi
  have hlength := List.getElem?_eq_none_iff.mp h
  omega

/-- The first row of a line is drawn in an area. -/
def Begins (area : Rect) (i : Nat) : Prop :=
  ∃ r : Nat, ∃ row, (v.drawnRows area.width area.height)[r]? = some ((i, 0), row)

/-- A line begins in the area if it does not come before the first line that is drawn, and the lines
between leave a row. -/
theorem begins_iff {i : Nat} (hi : i < v.logs.length) : v.Begins area i ↔
    v.offset area.height ≤ i ∧
      rowsBetween v.zone area.width v.logs (v.offset area.height) i < area.height := by
  constructor
  · rintro ⟨r, row, h⟩
    obtain ⟨hr, hfirst, hbetween, -⟩ := v.getElem?_drawnRows.mp h
    exact ⟨hfirst, by omega⟩
  · intro ⟨hfirst, hbetween⟩
    obtain ⟨row, hrow⟩ := exists_first_row v.zone area.width v.logs[i]
    exact ⟨_, row, v.getElem?_drawnRows.mpr
      ⟨hbetween, hfirst, rfl, _, List.getElem?_eq_getElem hi, hrow⟩⟩

end

end LogView

-- ==================================================== what keys can show

namespace ExecutionScreen

open LogView (rowsBetween)

/-- The keys that move by lines can bring a line into an area. -/
def CanShow (s : ExecutionScreen) (zone : TimeZone) (area : Rect) (i : Nat) : Prop :=
  ∃ keys : List Key, (∀ key ∈ keys, key ∈ Screen.scrollKeys) ∧
    ∃ s', (Screen.execution s).after (keys.map .key) = .execution s' ∧
      (LogView.mk zone s'.logs.rows s'.scroll).Begins area i

/-- Best is to scroll to the line itself; what counts is the rows between the line that comes first
then and the line itself. -/
theorem canShow_iff (s : ExecutionScreen) (zone : TimeZone) {area : Rect} {i : Nat}
    (hi : i < s.logs.rows.length) : s.CanShow zone area i ↔ rowsBetween zone area.width s.logs.rows
      (min i (s.logs.rows.length - area.height)) i < area.height := by
  constructor
  · rintro ⟨keys, hkeys, s', hafter, hbegins⟩
    rw [s.after_scrollKeys hkeys] at hafter
    cases hafter
    let v : LogView := ⟨zone, s.logs.rows, Screen.scrollAfter s.logs.rows.length s.scroll keys⟩
    obtain ⟨hfirst, hbetween⟩ := (v.begins_iff hi).mp hbegins
    have hoffset : v.offset area.height ≤ s.logs.rows.length - area.height := Nat.min_le_right _ _
    exact Nat.lt_of_le_of_lt
      (LogView.rowsBetween_le _ _ _ (Nat.le_min.mpr ⟨hfirst, hoffset⟩) (Nat.le_refl i)) hbetween
  · intro hbetween
    refine ⟨.home :: List.replicate i .down, Screen.home_downs_scroll i, _,
      s.after_scrollKeys (Screen.home_downs_scroll i), ?_⟩
    rw [Screen.scrollAfter_home_downs hi]
    exact (LogView.begins_iff _ hi).mpr ⟨Nat.min_le_left _ _, hbetween⟩

/-- If the last line can be brought into the area, so can all. -/
theorem canShow_all_iff (s : ExecutionScreen) (zone : TimeZone) {area : Rect}
    (hheight : 0 < area.height) : (∀ i < s.logs.rows.length, s.CanShow zone area i) ↔
      rowsBetween zone area.width s.logs.rows (s.logs.rows.length - area.height)
        (s.logs.rows.length - 1) < area.height := by
  constructor
  · intro hall
    obtain hnone | hsome := Nat.eq_zero_or_pos s.logs.rows.length
    · rw [hnone, Nat.zero_sub, Nat.zero_sub, LogView.rowsBetween_self]
      exact hheight
    · have hlt := Nat.sub_one_lt hsome.ne'
      have hlast := (s.canShow_iff zone hlt).mp (hall _ hlt)
      rwa [Nat.min_eq_right (by omega)] at hlast
  · intro hlast i hi
    rw [s.canShow_iff zone hi]
    obtain hpast | hfits := Nat.lt_or_ge (s.logs.rows.length - area.height) i
    · rw [Nat.min_eq_right (Nat.le_of_lt hpast)]
      exact Nat.lt_of_le_of_lt (LogView.rowsBetween_le _ _ _ (Nat.le_refl _) (by omega)) hlast
    · rw [Nat.min_eq_left hfits, LogView.rowsBetween_self]
      exact hheight

/-- What is drawn of logs are the rows of the lines from a first one on, each in a row of the area,
in their order and as far as there is room, and below the last nothing. The keys that move by lines
can bring a line into the area exactly if the lines before it leave a row, from the line on with
which the rest would fill the area if each took one row; and all lines exactly if they can bring the
last one there. -/
theorem lines_that_come_on_screen (s : ExecutionScreen) (zone : TimeZone) (area : Rect)
    (hwidth : 0 < area.width) (hheight : 0 < area.height) :
    let lines := s.logs.rows
    (∀ scroll b, b.Holds area → lines ≠ [] →
      let v : LogView := ⟨zone, lines, scroll⟩
      let first := min scroll (lines.length - area.height)
      let rows := v.drawnRows area.width area.height
      (∀ (r i j : Nat) (row : List Glyph), rows[r]? = some ((i, j), row) ↔
        r < area.height ∧ first ≤ i ∧ r = rowsBetween zone area.width lines first i + j ∧
          ∃ l, lines[i]? = some l ∧ (LogView.rowsOf zone area.width l)[j]? = some row) ∧
      (∀ (r i j : Nat) (row : List Glyph), rows[r]? = some ((i, j), row) →
        SameRow (area.y + r) (putGlyphs (area.y + r) area.x row b) (v.draw area b)) ∧
      ∀ r : Nat, rows[r]? = none → SameRow (area.y + r) b (v.draw area b)) ∧
    (∀ i < lines.length, s.CanShow zone area i ↔
      rowsBetween zone area.width lines (min i (lines.length - area.height)) i < area.height) ∧
    ((∀ i < lines.length, s.CanShow zone area i) ↔
      rowsBetween zone area.width lines (lines.length - area.height) (lines.length - 1) <
        area.height) := by
  intro lines
  refine ⟨fun scroll b hin hlines => ?_, fun i hi => s.canShow_iff zone hi,
    s.canShow_all_iff zone hheight⟩
  intro v first rows
  exact ⟨fun r i j row => v.getElem?_drawnRows, fun r i j row h => v.draw_row hin hwidth h,
    fun r h => v.draw_rest hin hwidth hheight hlines h⟩

/-- The screen with lines that say these messages. -/
def saying (messages : List String) : ExecutionScreen where
  id := "e"
  page := .first 20
  logs := .loaded ⟨messages.map fun message => ⟨1, "e", .info, message, 0⟩, ⟨20, 0, 2⟩⟩

/-- Of two lines of one row each both are shown in two rows. -/
theorem lines_of_one_row_are_shown :
    let s := saying ["start", "done"]
    let area : Rect := ⟨0, 0, 20, 2⟩
    0 < area.width ∧ 0 < area.height ∧ ∀ i < s.logs.rows.length, s.CanShow .utc area i := by
  intro s area
  refine ⟨by decide, by decide, ?_⟩
  refine (lines_that_come_on_screen s .utc area (by decide) (by decide)).2.2.mpr ?_
  decide +kernel

/-- Behind a line of two rows another line is not shown in two rows, whatever keys are pressed. -/
theorem line_behind_two_rows_is_unseen :
    let s := saying ["connection refused by peer", "done"]
    let area : Rect := ⟨0, 0, 20, 2⟩
    1 < s.logs.rows.length ∧ ¬ s.CanShow .utc area 1 := by
  intro s area
  have hlength : 1 < s.logs.rows.length := by decide
  have hrows : ¬ rowsBetween .utc area.width s.logs.rows
      (min 1 (s.logs.rows.length - area.height)) 1 < area.height := by decide +kernel
  exact ⟨hlength, fun h => hrows ((s.canShow_iff .utc hlength).mp h)⟩

end ExecutionScreen

end FunctionConsole
