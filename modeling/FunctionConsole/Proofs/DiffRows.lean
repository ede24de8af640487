import FunctionConsole.Frame.Diff
import FunctionConsole.Proofs.Rows
import FunctionConsole.Proofs.Scrolling

/-!
# The rows of a difference

A difference is drawn a row for each line. Which line the first row has is given by the scroll, but
no further than the last lines fill the area, so that in the rows of an area stand lines that follow
each other, and each line can be brought into the area by the keys
(`VersionDiff.lines_have_their_rows`).
-/

namespace FunctionConsole

open Buffer

-- ==================================================== what a row reads

theorem isPlain_of_isDigit {c : Char} (h : c.isDigit = true) : isPlain c = true := by
  have hrange : 48 ≤ c.toNat ∧ c.toNat ≤ 57 := by
    simpa [Char.isDigit, UInt32.le_iff_toNat_le] using h
  simp only [isPlain, Bool.and_eq_true, decide_eq_true_eq]
  omega

namespace DiffView

theorem number_plain (n : Option UInt32) : ∀ c ∈ (number n).toList, isPlain c = true := by
  have hdigits : ∀ c ∈ ((n.map fun n => toString n.toNat).getD "").toList, isPlain c = true := by
    cases n with
    | none => exact List.all_eq_true.mp rfl
    | some n =>
        intro c hc
        rw [Option.map_some, Option.getD_some, Nat.toString_eq_ofList_toDigits,
          String.toList_ofList] at hc
        exact isPlain_of_isDigit (Nat.isDigit_of_mem_toDigits (by omega) (by omega) hc)
  intro c hc
  rw [number, String.toList_append, String.toList_ofList] at hc
  rcases List.mem_append.mp hc with hblank | hdigit
  · rw [(List.mem_replicate.mp hblank).2]
    decide
  · exact hdigits c hdigit

/-- The spans of a row before its content. -/
def marginSpans (l : DiffLine) : List Span :=
  [{ text := number l.oldNumber, style := Theme.muted }, { text := " " },
   { text := number l.newNumber, style := Theme.muted }, { text := " " },
   { text := String.ofList [l.lineType.symbol, ' '], style := style l.lineType }]

/-- The span of the content. -/
def contentSpan (l : DiffLine) : Span := { text := l.displayContent, style := style l.lineType }

/-- What a row begins with: the numbers of its line on both sides, and its sign. -/
def margin (l : DiffLine) : String :=
  number l.oldNumber ++ " " ++ number l.newNumber ++ " " ++ String.ofList [l.lineType.symbol, ' ']

/-- What can be read of a row without knowing how wide other than plain characters are. -/
def legible (l : DiffLine) : String :=
  margin l ++ if l.content.toList.all isPlain then l.displayContent else ""

theorem row_spans (l : DiffLine) : (row l).spans = marginSpans l ++ [contentSpan l] := rfl

theorem spansText_marginSpans (l : DiffLine) : spansText (marginSpans l) = (margin l).toList := by
  simp [spansText, marginSpans, margin]

theorem marginSpans_plain (l : DiffLine) : PlainSpans (marginSpans l) := by
  intro sp hsp
  simp only [marginSpans, List.mem_cons, List.not_mem_nil, or_false] at hsp
  rcases hsp with rfl | rfl | rfl | rfl | rfl
  · exact number_plain _
  · exact List.all_eq_true.mp rfl
  · exact number_plain _
  · exact List.all_eq_true.mp rfl
  · cases l.lineType <;> exact List.all_eq_true.mp rfl

/-- A row begins with spans of plain text that make up what can be read of it. -/
theorem row_legible (l : DiffLine) : ∃ ss rest, (row l).spans = ss ++ rest ∧ PlainSpans ss ∧
    spansText ss = (legible l).toList := by
  by_cases hcontent : l.content.toList.all isPlain = true
  · refine ⟨marginSpans l ++ [contentSpan l], [], (List.append_nil _).symm, fun sp hsp => ?_, ?_⟩
    · rcases List.mem_append.mp hsp with hmargin | hcont
      · exact marginSpans_plain l sp hmargin
      · rw [List.mem_singleton.mp hcont]
        show ∀ c ∈ l.displayContent.toList, isPlain c = true
        unfold DiffLine.displayContent
        split
        · exact List.all_eq_true.mp rfl
        · exact List.all_eq_true.mp hcontent
    · rw [spansText, List.flatMap_append, legible, if_pos hcontent, String.toList_append,
        ← spansText_marginSpans]
      simp [contentSpan, spansText]
  · refine ⟨marginSpans l, [contentSpan l], row_spans l, marginSpans_plain l, ?_⟩
    rw [legible, if_neg hcontent, String.append_empty, spansText_marginSpans]

/-- A side that a line is not on has no number, whatever came for it. -/
theorem number_blank (l : DiffLine) :
    (l.lineType = .added → number l.oldNumber = "    ") ∧
      (l.lineType = .removed → number l.newNumber = "    ") := by
  constructor
  · intro h
    rw [DiffLine.oldNumber, if_pos h]
    decide
  · intro h
    rw [DiffLine.newNumber, if_pos h]
    decide

example : legible ⟨some 9, some 2, .added, "x"⟩ = "        2 + x" := by decide

/-- The row of a line reads what is legible of it, as far as there is room. -/
theorem reads_row {area : Rect} {b : Buffer} (hb : b.Full) (hin : b.Holds area) {r : Nat}
    (hr : r < area.height) (l : DiffLine) :
    (b.drawLine (area.row r) (row l)).reads (area.y + r) area.x
        (min area.width (legible l).length) = (legible l).toList.take area.width := by
  obtain ⟨ss, rest, hspans, hplain, htext⟩ := row_legible l
  have hrow : b.Holds (area.row r) := ⟨hin.1, by
    have hbottom : area.y + area.height ≤ b.height := hin.2
    show area.y + r + 1 ≤ b.height
    omega⟩
  have hreads : (b.drawLine (area.row r) (row l)).reads (area.y + r) area.x
      (min area.width (legible l).length) =
        (legible l).toList.take (min area.width (legible l).length) := by
    refine reads_of_textAt (Nat.min_le_right _ _) fun k c hc hk => ?_
    rw [← htext] at hc
    exact textAt_drawLine hspans hplain hb hrow Nat.one_pos hc (show k < area.width by omega)
  rw [hreads, ← List.take_take, ← String.length_toList, List.take_length]

-- ==================================================== the rows that are drawn

section

variable (v : DiffView) (area : Rect) (b : Buffer)

theorem draw_showsWindow :
    ShowsWindow area b (v.draw area b) (v.lines.map row) (v.offset area.height) := by
  have hvisible : v.visible area.height =
      ((v.lines.map row).drop (v.offset area.height)).take area.height := by
    rw [visible, List.map_take, List.map_drop]
  rw [draw, hvisible]
  exact drawLines_showsWindow area b _ _

/-- A row of the area is that of its line. -/
theorem draw_row {r : Nat} (hr : r < area.height) {l : DiffLine}
    (hl : v.lines[v.offset area.height + r]? = some l) :
    SameRow (area.y + r) (b.drawLine (area.row r) (row l)) (v.draw area b) :=
  (v.draw_showsWindow area b).row r hr _ (by rw [List.getElem?_map, hl, Option.map_some])

/-- Rows without a line are left. -/
theorem draw_changesOnly_rows : ChangesOnly
    { area with height := min area.height (v.lines.length - v.offset area.height) } b
      (v.draw area b) := by
  have hothers := (v.draw_showsWindow area b).others
  rw [List.length_map] at hothers
  exact hothers

/-- The line that is scrolled to is drawn, though not always in the first row. -/
theorem offset_le_scroll {height : Nat} (hheight : 0 < height)
    (hscroll : v.scroll < v.lines.length) :
    v.offset height ≤ v.scroll ∧ v.scroll < v.offset height + height := by
  rw [offset]
  omega

end

/-- A row has a sign. -/
def isSigned (sign : Char) (row : Line) : Bool :=
  row.spans[4]?.map Span.text = some (String.ofList [sign, ' '])

end DiffView

namespace VersionDiff

/-- How many rows have a sign. -/
def signedRows (d : VersionDiff) (sign : Char) : Nat :=
  (d.diff.map DiffView.row).countP (DiffView.isSigned sign)

theorem signedRows_eq (d : VersionDiff) :
    d.signedRows '+' = d.additions ∧ d.signedRows '-' = d.deletions := by
  have hsign (l : DiffLine) :
      DiffView.isSigned '+' (DiffView.row l) = decide (l.lineType = .added) ∧
      DiffView.isSigned '-' (DiffView.row l) = decide (l.lineType = .removed) := by
    obtain ⟨_, _, lineType, _⟩ := l
    cases lineType <;> exact ⟨rfl, rfl⟩
  constructor
  · rw [signedRows, List.countP_map, additions]
    exact List.countP_congr fun l _ => by rw [Function.comp_apply, (hsign l).1]
  · rw [signedRows, List.countP_map, deletions]
    exact List.countP_congr fun l _ => by rw [Function.comp_apply, (hsign l).2]

end VersionDiff

/-- Whatever the scroll is, the rows of an area are those of lines that follow each other, from the
first line that is scrolled to, or from the first one with which the last fills the area; other rows
are left, and each reads the numbers of its line, its sign and its content, as far as there is room.
On a side that a line is not on it has no number, whatever came for it, and without content it reads
a blank. The legend counts the rows with either sign. And each line is brought into any area that
has a row by keys of the screen. -/
theorem VersionDiff.lines_have_their_rows (d : VersionDiff) (area : Rect) (b : Buffer) :
    (∀ scroll, let o := min scroll (d.diff.length - area.height)
      let count := min area.height (d.diff.length - o)
      let drawn := (DiffView.mk d.diff scroll).draw area b
      ChangesOnly { area with height := count } b drawn ∧
      ∀ r < count, ∃ l, d.diff[o + r]? = some l ∧
        SameRow (area.y + r) (b.drawLine (area.row r) (DiffView.row l)) drawn ∧
        (b.Full → b.Holds area →
          drawn.reads (area.y + r) area.x (min area.width (DiffView.legible l).length) =
            (DiffView.legible l).toList.take area.width)) ∧
    (∀ l : DiffLine, (l.lineType = .added → DiffView.number l.oldNumber = "    ") ∧
      (l.lineType = .removed → DiffView.number l.newNumber = "    ") ∧
      (l.content = "" → DiffView.legible l = DiffView.margin l ++ " ")) ∧
    d.legend.spans.map Span.text =
      ["- Version " ++ toString d.oldVersion.toNat, "   ",
       "+ Version " ++ toString d.newVersion.toNat, "   ",
       "+" ++ toString (d.signedRows '+'), " ", "-" ++ toString (d.signedRows '-')] ∧
    ∀ s : DiffScreen, s.diff = .loaded d → 0 < area.height →
      ∀ (i : Nat) (l : DiffLine), d.diff[i]? = some l →
      ∃ keys : List Key, ∃ scroll,
        (Screen.diff s).after (keys.map .key) = .diff { s with scroll } ∧
        ∃ r < area.height, SameRow (area.y + r) (b.drawLine (area.row r) (DiffView.row l))
          ((DiffView.mk d.diff scroll).draw area b) := by
  refine ⟨fun scroll => ?_, fun l => ?_, ?_, ?_⟩
  · intro o count drawn
    refine ⟨DiffView.draw_changesOnly_rows ⟨d.diff, scroll⟩ area b, fun r hr => ?_⟩
    have hlt : o + r < d.diff.length := by omega
    have hrow := DiffView.draw_row ⟨d.diff, scroll⟩ area b (r := r) (by omega)
      (List.getElem?_eq_getElem hlt)
    refine ⟨_, List.getElem?_eq_getElem hlt, hrow, fun hb hin => ?_⟩
    rw [hrow.reads]
    exact DiffView.reads_row hb hin (by omega) _
  · refine ⟨(DiffView.number_blank l).1, (DiffView.number_blank l).2, fun hcontent => ?_⟩
    rw [DiffView.legible, hcontent, if_pos (by decide), DiffLine.displayContent, if_pos hcontent]
  · rw [d.signedRows_eq.1, d.signedRows_eq.2]
    rfl
  · intro s hs hheight i l hl
    have hi : i < d.diff.length := (List.getElem?_eq_some_iff.mp hl).1
    have hcount : s.lineCount = d.diff.length := by
      rw [DiffScreen.lineCount, hs]
      rfl
    refine ⟨.home :: List.replicate i .down, i, ?_, ?_⟩
    · rw [s.after_scrollKeys (Screen.home_downs_scroll i),
        Screen.scrollAfter_home_downs (hcount ▸ hi)]
    · obtain ⟨hle, hlt⟩ := DiffView.offset_le_scroll ⟨d.diff, i⟩ hheight hi
      change i < DiffView.offset ⟨d.diff, i⟩ area.height + area.height at hlt
      refine ⟨i - DiffView.offset ⟨d.diff, i⟩ area.height, by omega, ?_⟩
      refine DiffView.draw_row ⟨d.diff, i⟩ area b (by omega) ?_
      rw [Nat.add_sub_cancel' hle]
      exact hl

end FunctionConsole
