import FunctionConsole.Piece.DialogWindow
import FunctionConsole.Piece.ToastStack
import FunctionConsole.Proofs.DiffRows
import FunctionConsole.Proofs.WrappedText
import Mathlib.Data.Nat.Digits.Defs

/-!
# Rows kept for questions and toasts

A window and a toast keep the rows that their text would fill if it could be broken anywhere; but it
is wrapped between words, and what comes on a later row is not drawn. `Dialog.KeepsRows` and
`ToastStack.KeepsRows` say which rows are drawn and for which texts those are all, and
`words_on_kept_rows` puts them together: a question's last words are lost exactly if its words are
packed into more rows than are kept. So it goes with the question whether to delete a function whose
name has 20 to 39 plain characters; the other questions always have room.
-/

namespace FunctionConsole

open Wrap (IsGap IsWord ink pack packedRows)

namespace Buffer

/-- Of a paragraph no more counts than the rows for which there is room. -/
theorem drawParagraph_congr {b : Buffer} {area : Rect} {p q : Paragraph} (hin : b.Holds area)
    (hstyle : q.style = p.style) (halign : q.align = p.align)
    (hrows : (q.rows area.width).take area.height = (p.rows area.width).take area.height) :
    b.drawParagraph area q = b.drawParagraph area p := by
  have hoffset (width : Nat) : q.offset area.width width = p.offset area.width width := by
    rw [Paragraph.offset, Paragraph.offset, halign]
  rw [drawParagraph, drawParagraph, hin.inter_eq, hrows, hstyle]
  simp only [hoffset]

end Buffer

-- ==================================================== questions

namespace Dialog

section

variable {d : Dialog} {area : Rect} {b : Buffer}

section

variable (hwidth : windowWidth ≤ area.width) (hheight : d.messageRows.toNat + 5 ≤ area.height)
  (hword : area.height < 65536)

include hheight hword in
/-- In a screen with room for it the window has all its rows. -/
theorem height_windowArea : (d.windowArea area).height = d.messageRows.toNat + 5 := by
  have hrows : (d.messageRows + 5).toNat = d.messageRows.toNat + 5 := by
    rw [UInt16.toNat_add]
    exact Nat.mod_eq_of_lt (Nat.lt_of_le_of_lt hheight hword)
  rw [windowArea, Rect.centered, hrows]
  exact Nat.min_eq_left hheight

include hwidth in
theorem width_windowArea : (d.windowArea area).width = 56 := Nat.min_eq_left hwidth

include hwidth hheight hword in
/-- The question has 52 columns, and the rows that are kept for it. -/
theorem size_messageArea : (d.messageArea (Box.inner (d.windowArea area))).width = 52 ∧
    (d.messageArea (Box.inner (d.windowArea area))).height = d.messageRows.toNat := by
  have hrows := height_windowArea hheight hword
  have hcolumns := width_windowArea (d := d) hwidth
  constructor
  · show (d.windowArea area).width - 2 - 2 = 52
    omega
  · show min d.messageRows.toNat ((d.windowArea area).height - 2 - 1) = d.messageRows.toNat
    omega

include hwidth hheight hword in
theorem holds_messageArea (hin : b.Holds area) :
    b.Holds (d.messageArea (Box.inner (d.windowArea area))) := by
  obtain ⟨hright, hbottom⟩ := hin
  obtain ⟨htext, htext'⟩ := size_messageArea hwidth hheight hword
  have hrows := height_windowArea hheight hword
  have hcolumns := width_windowArea (d := d) hwidth
  have hx : (d.windowArea area).x = area.x + (area.width - (d.windowArea area).width) / 2 := rfl
  have hy : (d.windowArea area).y = area.y + (area.height - (d.windowArea area).height) / 2 := rfl
  have hx' : (d.messageArea (Box.inner (d.windowArea area))).x ≤ (d.windowArea area).x + 1 + 1 :=
    Nat.add_le_add_right (Nat.min_le_left _ _) 1
  have hy' : (d.messageArea (Box.inner (d.windowArea area))).y ≤ (d.windowArea area).y + 1 + 1 :=
    Nat.add_le_add_right (Nat.min_le_left _ _) 1
  have hcolumns' : 56 ≤ area.width := hwidth
  simp only [Rect.right, Rect.bottom] at hright hbottom
  constructor
  · rw [Rect.right, htext]
    omega
  · rw [Rect.bottom, htext']
    omega

end

/-- The window without its text. -/
def frame (d : Dialog) (area : Rect) (b : Buffer) : Buffer :=
  let color := if d.danger then Theme.badColor else Theme.accentColor
  let title : Span := { text := " " ++ d.title ++ " ", style := Theme.strong.withFg color }
  ((b.veil area).clear (d.windowArea area)).drawBox (d.windowArea area)
    (Theme.window title (.ofFg color))

theorem frame_full (hb : b.Full) (d : Dialog) (area : Rect) : (d.frame area b).Full :=
  (Buffer.drawBox_changesOnly _ _).full
    ((Buffer.modifyArea_changesOnly _).full ((Buffer.paint_changesOnly _ _).full hb))

theorem frame_holds {r : Rect} (hin : b.Holds r) (d : Dialog) (area : Rect) :
    (d.frame area b).Holds r := by
  have hveil : (b.veil area).Holds r := hin.kept (Buffer.paint_changesOnly area _)
  have hclear : ((b.veil area).clear (d.windowArea area)).Holds r :=
    hveil.kept (Buffer.modifyArea_changesOnly _)
  rw [frame]
  exact hclear.kept (Buffer.drawBox_changesOnly _ _)

/-- The question is drawn into the window, and the keys for the answers two rows below it. -/
theorem draw_eq (d : Dialog) (area : Rect) (b : Buffer) : d.draw area b =
    let inner := Box.inner (d.windowArea area)
    let asked := (d.frame area b).drawParagraph (d.messageArea inner) d.messageText
    if 0 < inner.height then
      asked.drawParagraph { inner.row (inner.height - 1) with width := inner.width - 1 } answers
    else asked := rfl

section

variable (hin : b.Holds area) (hwidth : windowWidth ≤ area.width)
  (hheight : d.messageRows.toNat + 5 ≤ area.height) (hword : area.height < 65536)

include hin hwidth hheight hword

/-- The rows that are kept for a question are its first ones, and each glyph on them is drawn. -/
theorem draw_showsRows (hb : b.Full) :
    (d.draw area b).ShowsRows (d.messageArea (Box.inner (d.windowArea area))).x
      (d.messageArea (Box.inner (d.windowArea area))).y
      ((d.messageText.rows 52).take d.messageRows.toNat) := by
  obtain ⟨htext, htext'⟩ := size_messageArea hwidth hheight hword
  have hasked := Buffer.drawParagraph_showsRows (p := d.messageText) rfl (frame_full hb d area)
    (frame_holds (holds_messageArea hwidth hheight hword hin) d area) (by omega)
  rw [htext, htext'] at hasked
  rw [draw_eq]
  dsimp only
  split
  · refine hasked.kept fun r hr => ?_
    have hanswers (row : Rect) (b : Buffer) :
        Buffer.ChangesOnly row b (b.drawParagraph row answers) := Buffer.drawParagraph_changesOnly row rfl
    refine (hanswers _ _).sameRow fun h => ?_
    have hrows := height_windowArea hheight hword
    rw [List.length_take] at hr
    have hy : (Box.inner (d.windowArea area)).y + ((d.windowArea area).height - 2 - 1) ≤
        (Box.inner (d.windowArea area)).y + 1 + r := h.1
    omega
  · exact hasked

/-- Of a question nothing counts but the rows that are kept for it. -/
theorem draw_congr {d' : Dialog} (htitle : d'.title = d.title) (hdanger : d'.danger = d.danger)
    (hkept : d'.messageRows = d.messageRows)
    (hrows : (d'.messageText.rows 52).take d.messageRows.toNat =
      (d.messageText.rows 52).take d.messageRows.toNat) : d'.draw area b = d.draw area b := by
  have hwindow : d'.windowArea area = d.windowArea area := by rw [windowArea, windowArea, hkept]
  have htext : d'.messageArea (Box.inner (d.windowArea area)) =
      d.messageArea (Box.inner (d.windowArea area)) := by rw [messageArea, messageArea, hkept]
  have hframe : d'.frame area b = d.frame area b := by
    simp only [frame, htitle, hdanger, hwindow]
  obtain ⟨hcolumns, hrows'⟩ := size_messageArea hwidth hheight hword
  have hasked := Buffer.drawParagraph_congr (p := d.messageText) (q := d'.messageText)
    (frame_holds (holds_messageArea hwidth hheight hword hin) d area) rfl rfl
    (by rw [hcolumns, hrows', hrows])
  rw [draw_eq, draw_eq]
  dsimp only
  rw [hwindow, htext, hframe, hasked]

end

end

-- ==================================================== plain questions

/-- The words of the question are all on the rows that are kept for it. -/
def WordsKept (d : Dialog) : Prop := d.messageText.WordsWithin 52 d.messageRows.toNat

/-- The look of a question. -/
def textStyle : Style := (Theme.primary.andThen {}).andThen {}

/-- The glyphs of a plain question. -/
theorem glyphs_messageText (d : Dialog) (hplain : ∀ c ∈ d.message.toList, isPlain c = true)
    (hne : d.message.toList ≠ []) : (∃ l, d.messageText.lines = [l]) ∧
      d.messageText.glyphs = d.message.toList.map fun c => Glyph.mk [c] textStyle := by
  have hbreak : '\n' ∉ d.message.toList := fun h => absurd (hplain _ h) (by decide)
  have hlines : d.messageText.lines = [.ofText d.message {}] := by
    rw [messageText, Text.lines_of_unbroken hne hbreak]
    rfl
  refine ⟨⟨_, hlines⟩, ?_⟩
  rw [Paragraph.glyphs, hlines, List.flatMap_singleton]
  show List.flatMap _ [({ text := d.message } : Span)] = _
  rw [List.flatMap_singleton]
  exact glyphs_of_plain hplain _

/-- The rows that are kept for a plain question. -/
theorem toNat_messageRows (d : Dialog) (hplain : ∀ c ∈ d.message.toList, isPlain c = true) :
    d.messageRows.toNat = max ((d.message.toList.length + 51) / 52) 1 % 65536 := by
  rw [messageRows, width_of_plain hplain, UInt16.toNat_ofNat']
  rfl

section

variable {d : Dialog} {first : List Char} {rest : List (List Char)}
  (hmessage : d.message.toList = spacedWords first rest)
  (hwords : ∀ w ∈ first :: rest, PlainWord w ∧ w.length ≤ 52)

include hmessage hwords

theorem plain_of_words : ∀ c ∈ d.message.toList, isPlain c = true := by
  rw [hmessage]
  exact plain_of_spacedWords fun w hw => (hwords w hw).1

/-- A plain question is packed. -/
theorem rows_of_plain (height : Nat) :
    d.messageText.rows 52 =
        pack 52 (first.map fun c => ⟨[c], textStyle⟩) (gappedWords textStyle rest) ∧
      (d.messageText.WordsWithin 52 height ↔ (d.messageText.rows 52).length ≤ height) := by
  obtain ⟨hfirst, hfirst'⟩ := hwords first List.mem_cons_self
  have hrest : ∀ w ∈ rest, PlainWord w ∧ w.length ≤ 52 :=
    fun w hw => hwords w (List.mem_cons_of_mem _ hw)
  have hne : d.message.toList ≠ [] := by
    rw [hmessage]
    exact List.append_ne_nil_of_left_ne_nil hfirst.ne_nil _
  obtain ⟨⟨l, hline⟩, hglyphs⟩ := d.glyphs_messageText (plain_of_words hmessage hwords) hne
  rw [hmessage, map_spacedWords] at hglyphs
  obtain ⟨hrows, hwithin⟩ := Paragraph.wordsWithin_of_words rfl hline
    (hfirst.isWord textStyle hfirst') (gappedWords_isWord textStyle hrest) hglyphs
  exact ⟨hrows, hrows ▸ hwithin⟩

/-- The lengths of its words say how many rows that makes. -/
theorem length_rows_of_plain :
    (d.messageText.rows 52).length = packedRows 52 first.length (rest.map List.length) := by
  have hrest : ∀ w ∈ rest, PlainWord w := fun w hw => (hwords w (List.mem_cons_of_mem _ hw)).1
  rw [(rows_of_plain hmessage hwords 0).1, Wrap.length_pack (gappedWords_narrow textStyle hrest),
    Wrap.glyphsWidth_narrow ((hwords first List.mem_cons_self).1.narrow textStyle), List.length_map,
    lengths_gappedWords]

theorem wordsKept_of_plain : d.WordsKept ↔
    packedRows 52 first.length (rest.map List.length) ≤ d.messageRows.toNat := by
  rw [WordsKept, (rows_of_plain hmessage hwords _).2, length_rows_of_plain hmessage hwords]

end

/-- A plain question whose words are packed into more rows than are kept looks as if it had no last
word. -/
theorem draw_without_last_word {d d' : Dialog} {first last : List Char} {rest : List (List Char)}
    (hmessage : d.message.toList = spacedWords first (rest ++ [last]))
    (hmessage' : d'.message.toList = spacedWords first rest)
    (hwords : ∀ w ∈ first :: (rest ++ [last]), PlainWord w ∧ w.length ≤ 52)
    (htitle : d'.title = d.title) (hdanger : d'.danger = d.danger)
    (hkept : d'.messageRows = d.messageRows)
    (hmore : d.messageRows.toNat < packedRows 52 first.length ((rest ++ [last]).map List.length))
    {area : Rect} {b : Buffer} (hin : b.Holds area) (hwidth : windowWidth ≤ area.width)
    (hheight : d.messageRows.toNat + 5 ≤ area.height) (hword : area.height < 65536) :
    d'.draw area b = d.draw area b := by
  have hwords' : ∀ w ∈ first :: rest, PlainWord w ∧ w.length ≤ 52 := fun w hw =>
    hwords w (List.mem_append_left [last] hw)
  refine draw_congr hin hwidth hheight hword htitle hdanger hkept ?_
  rw [← length_rows_of_plain hmessage hwords, (rows_of_plain hmessage hwords 0).1, gappedWords,
    List.map_append] at hmore
  rw [(rows_of_plain hmessage hwords 0).1, (rows_of_plain hmessage' hwords' 0).1]
  rw [gappedWords, gappedWords, List.map_append]
  exact (Wrap.take_pack_concat _ _ hmore).symm

/-- A short plain question has room. -/
theorem wordsKept_of_short (d : Dialog) (hplain : ∀ c ∈ d.message.toList, isPlain c = true)
    (hne : d.message.toList ≠ []) (hshort : d.message.toList.length ≤ 52) : d.WordsKept := by
  obtain ⟨⟨l, hline⟩, hglyphs⟩ := d.glyphs_messageText hplain hne
  have hnarrow : ∀ g ∈ d.messageText.glyphs, g.width = 1 := by
    rw [hglyphs]
    intro g hg
    obtain ⟨c, hc, rfl⟩ := List.mem_map.mp hg
    exact (plain_char (hplain c hc)).2.1
  refine Paragraph.wordsWithin_of_narrow rfl hline hnarrow ?_ ?_
  · rw [hglyphs, List.length_map]
    exact hshort
  · rw [d.toNat_messageRows hplain]
    omega

theorem setDisabled_wordsKept (id : String) (disabled : Bool) :
    (setDisabled id disabled).WordsKept := by
  have hmessage : ∀ disabled, let text := (setDisabled "" disabled).message.toList
      text.all isPlain = true ∧ text ≠ [] ∧ text.length ≤ 52 := by decide +kernel
  obtain ⟨hplain, hne, hshort⟩ := hmessage disabled
  exact wordsKept_of_short (setDisabled id disabled) (List.all_eq_true.mp hplain) hne hshort

theorem activateVersion_wordsKept (id : String) (version : UInt32) :
    (activateVersion id version).WordsKept := by
  have hmessage : (activateVersion id version).message.toList =
      "Activate version ".toList ++ Nat.toDigits 10 version.toNat ++ ['?'] := by
    have hdigits : (toString version.toNat).toList = Nat.toDigits 10 version.toNat := by
      rw [Nat.toString_eq_ofList_toDigits, String.toList_ofList]
    rw [activateVersion, String.toList_append, String.toList_append, hdigits]
    rfl
  have hlength : (Nat.toDigits 10 version.toNat).length ≤ 10 :=
    Nat.toDigits_length 10 version.toNat 10 (by decide)
      (Nat.lt_trans version.toNat_lt (by decide))
  have hplain : ∀ c ∈ (activateVersion id version).message.toList, isPlain c = true := by
    rw [hmessage]
    intro c hc
    rcases List.mem_append.mp hc with hc | hc
    · rcases List.mem_append.mp hc with hc | hc
      · exact List.all_eq_true.mp (by rfl : "Activate version ".toList.all isPlain = true) c hc
      · exact isPlain_of_isDigit (Nat.isDigit_of_mem_toDigits (by omega) (by omega) hc)
    · rw [List.mem_singleton.mp hc]
      decide
  have hshort : (activateVersion id version).message.toList.length ≤ 52 := by
    have hwords : "Activate version ".toList.length = 17 := rfl
    rw [hmessage, List.length_append, List.length_append, hwords, List.length_singleton]
    omega
  refine wordsKept_of_short _ hplain ?_ hshort
  rw [hmessage]
  exact List.append_ne_nil_of_right_ne_nil _ (List.cons_ne_nil _ _)

/-- The name of a function in its question. -/
def quotedName (name : List Char) : List Char := '"' :: (name ++ ['"', '?'])

/-- The words of the question whether to delete a function, behind the first and without the
last. -/
def deleteWords (name : List Char) : List (List Char) :=
  ["you".toList, "sure".toList, "you".toList, "want".toList, "to".toList, "delete".toList,
   quotedName name, "This".toList, "action".toList, "cannot".toList, "be".toList]

theorem deleteFunction_message (id name : String) : (deleteFunction id name).message.toList =
    spacedWords "Are".toList (deleteWords name.toList ++ ["undone.".toList]) := by
  rw [deleteFunction, String.toList_append, String.toList_append]
  simp [spacedWords, deleteWords, quotedName]

theorem quotedName_plain {name : List Char} (h : PlainWord name) : PlainWord (quotedName name) where
  ne_nil := List.cons_ne_nil _ _
  plain := by
    intro c hc
    simp only [quotedName, List.mem_cons, List.mem_append, List.not_mem_nil, or_false] at hc
    rcases hc with rfl | hc | rfl | rfl
    · decide
    · exact h.plain c hc
    · decide
    · decide
  unbroken := by
    simp only [quotedName, List.mem_cons, List.mem_append, List.not_mem_nil, or_false, not_or]
    exact ⟨by decide, h.unbroken, by decide, by decide⟩

theorem deleteWords_plain {name : List Char} (hname : PlainWord name) (hlength : name.length ≤ 49) :
    ∀ w ∈ "Are".toList :: (deleteWords name ++ ["undone.".toList]), PlainWord w ∧ w.length ≤ 52 := by
  have hfixed : ∀ w ∈ ["Are", "you", "sure", "want", "to", "delete", "This", "action", "cannot", "be",
      "undone."], PlainWord w.toList ∧ w.toList.length ≤ 52 := by decide +kernel
  have hquoted : PlainWord (quotedName name) ∧ (quotedName name).length ≤ 52 := by
    refine ⟨quotedName_plain hname, ?_⟩
    rw [quotedName, List.length_cons, List.length_append]
    exact Nat.add_le_add_right (Nat.add_le_add_right hlength 2) 1
  intro w hw
  simp only [deleteWords, List.mem_cons, List.mem_append, List.not_mem_nil, or_false, or_assoc] at hw
  rcases hw with rfl | rfl | rfl | rfl | rfl | rfl | rfl | rfl | rfl | rfl | rfl | rfl | rfl
  all_goals
    first
      | exact hquoted
      | exact hfixed _ (by decide)

/-- With a name of so many characters the last word of the question comes on a third row. -/
theorem packedRows_deleteWords (name : List Char) :
    packedRows 52 "Are".toList.length
        ((deleteWords name ++ ["undone.".toList]).map List.length) =
      if name.length < 20 then 2 else 3 := by
  have hlengths : (deleteWords name ++ ["undone.".toList]).map List.length =
      [3, 4, 3, 4, 2, 6, name.length + 3, 4, 6, 6, 2, 7] := by simp [deleteWords, quotedName]
  rw [hlengths]
  -- the words before the name are on the first row
  show packedRows 52 31 [name.length + 3, 4, 6, 6, 2, 7] = _
  simp only [packedRows]
  grind

section

variable {name : String} (id : String) (hname : PlainWord name.toList)
  (hlength : name.toList.length ≤ 49)

include hname hlength

theorem deleteFunction_messageRows :
    (deleteFunction id name).messageRows.toNat = (name.toList.length + 116) / 52 := by
  have hmessage := deleteFunction_message id name
  have htotal : (deleteFunction id name).message.toList.length = name.toList.length + 65 := by
    rw [hmessage]
    simp [spacedWords, deleteWords, quotedName]
  rw [toNat_messageRows _ (plain_of_words hmessage (deleteWords_plain hname hlength)), htotal]
  omega

theorem deleteFunction_length_rows : ((deleteFunction id name).messageText.rows 52).length =
    if name.toList.length < 20 then 2 else 3 := by
  rw [length_rows_of_plain (deleteFunction_message id name) (deleteWords_plain hname hlength),
    packedRows_deleteWords]

/-- The words of the question whether to delete a function are all on the rows that are kept, unless
the name has so many characters that they are wrapped to a third row which is not. -/
theorem deleteFunction_wordsKept_iff : (deleteFunction id name).WordsKept ↔
    name.toList.length < 20 ∨ 39 < name.toList.length := by
  rw [wordsKept_of_plain (deleteFunction_message id name) (deleteWords_plain hname hlength),
    packedRows_deleteWords, deleteFunction_messageRows id hname hlength]
  split <;> omega

end

/-- With such a name the question looks as if it had no last word. -/
theorem deleteFunction_without_last_word {id name : String} (hname : PlainWord name.toList)
    (hlong : 20 ≤ name.toList.length) (hshort : name.toList.length ≤ 39) {d : Dialog}
    (hmessage : d.message.toList = spacedWords "Are".toList (deleteWords name.toList))
    (htitle : d.title = (deleteFunction id name).title) (hdanger : d.danger = true) {area : Rect}
    {b : Buffer} (hin : b.Holds area) (hwidth : windowWidth ≤ area.width)
    (hheight : 7 ≤ area.height) (hword : area.height < 65536) : d.draw area b = (deleteFunction id name).draw area b := by
  have hwords := deleteWords_plain hname (Nat.le_trans hshort (by decide))
  have hwords' : ∀ w ∈ "Are".toList :: deleteWords name.toList, PlainWord w ∧ w.length ≤ 52 :=
    fun w hw => hwords w (List.mem_append_left ["undone.".toList] hw)
  have hkept : (deleteFunction id name).messageRows.toNat = 2 := by
    rw [deleteFunction_messageRows id hname (Nat.le_trans hshort (by decide))]
    omega
  have htotal : d.message.toList.length = name.toList.length + 57 := by
    rw [hmessage]
    simp [spacedWords, deleteWords, quotedName]
  have hkept' : d.messageRows.toNat = 2 := by
    rw [toNat_messageRows _ (plain_of_words hmessage hwords'), htotal]
    omega
  refine draw_without_last_word (deleteFunction_message id name) hmessage hwords htitle hdanger
    (UInt16.toNat_inj.mp (hkept'.trans hkept.symm)) ?_ hin hwidth (by rw [hkept]; exact hheight) hword
  rw [hkept, packedRows_deleteWords, if_neg (Nat.not_lt.mpr hlong)]
  decide

-- ==================================================== what is kept of questions

/-- What becomes of a question in the rows that are kept for it. -/
structure KeepsRows (d : Dialog) (area : Rect) (b : Buffer) : Prop where
  /-- The text area has 52 columns and the rows that are kept. -/
  size : windowWidth ≤ area.width → d.messageRows.toNat + 5 ≤ area.height → area.height < 65536 →
    let text := d.messageArea (Box.inner (d.windowArea area))
    text.width = 52 ∧ text.height = d.messageRows.toNat
  /-- Each glyph on the first rows is drawn. -/
  shown : b.Full → b.Holds area → windowWidth ≤ area.width →
    d.messageRows.toNat + 5 ≤ area.height → area.height < 65536 →
    let text := d.messageArea (Box.inner (d.windowArea area))
    (d.draw area b).ShowsRows text.x text.y ((d.messageText.rows 52).take d.messageRows.toNat)
  /-- Nothing else of the text counts. -/
  rest : b.Holds area → windowWidth ≤ area.width →
    d.messageRows.toNat + 5 ≤ area.height → area.height < 65536 →
    ∀ d' : Dialog, d'.title = d.title → d'.danger = d.danger → d'.messageRows = d.messageRows →
      (d'.messageText.rows 52).take d.messageRows.toNat =
        (d.messageText.rows 52).take d.messageRows.toNat →
      d'.draw area b = d.draw area b
  /-- All words are drawn if none comes on a later row. -/
  later : d.WordsKept ↔ ∀ row ∈ (d.messageText.rows 52).drop d.messageRows.toNat, ink row = []
  /-- Words with one blank between them are packed into rows. -/
  packed : ∀ (l : Line) (first : List Glyph) (rest : List (Glyph × List Glyph)),
    d.messageText.lines = [l] → IsWord 52 first → (∀ e ∈ rest, IsGap e.1 ∧ IsWord 52 e.2) →
    d.messageText.glyphs = first ++ (rest.flatMap fun e => e.1 :: e.2) →
    (d.WordsKept ↔ (pack 52 first rest).length ≤ d.messageRows.toNat)
  /-- Of plain words the lengths decide. -/
  plain : ∀ (first : List Char) (rest : List (List Char)),
    d.message.toList = spacedWords first rest →
    (∀ w ∈ first :: rest, PlainWord w ∧ w.length ≤ 52) →
    (d.WordsKept ↔ packedRows 52 first.length (rest.map List.length) ≤
      max ((d.message.toList.length + 51) / 52) 1 % 65536)

theorem keepsRows (d : Dialog) (area : Rect) (b : Buffer) : d.KeepsRows area b where
  size := size_messageArea
  shown hb hin hwidth hheight hword := draw_showsRows hin hwidth hheight hword hb
  rest hin hwidth hheight hword _ := draw_congr hin hwidth hheight hword
  later := Paragraph.wordsWithin_iff rfl
  packed _ _ _ hline hfirst hrest hwords :=
    (Paragraph.wordsWithin_of_words rfl hline hfirst hrest hwords).2
  plain _ _ hmessage hwords := by
    rw [wordsKept_of_plain hmessage hwords, toNat_messageRows d (plain_of_words hmessage hwords)]

end Dialog

-- ==================================================== toasts

namespace ToastStack

section

variable {area : Rect} {b : Buffer} {t : Toast} {ts : List Toast} {y : Nat}

/-- A toast without its text. -/
def frame (kind : ToastKind) (area : Rect) (b : Buffer) : Buffer :=
  (b.clear area).drawBox area { border := .ofFg (color kind), style := .ofBg Theme.windowGround }

theorem frame_changesOnly (kind : ToastKind) (area : Rect) (b : Buffer) :
    Buffer.ChangesOnly area b (frame kind area b) :=
  (Buffer.modifyArea_changesOnly area).trans (Buffer.drawBox_changesOnly area _)

theorem drawToast_eq (t : Toast) (area : Rect) (b : Buffer) : drawToast t area b =
    (frame t.kind area b).drawParagraph (Box.inner area) (text t) := rfl

/-- A toast is drawn within its rows. -/
theorem drawToast_changesOnly_rows (t : Toast) (area : Rect) (b : Buffer) :
    ∃ width, Buffer.ChangesOnly ⟨0, area.y, width, area.height⟩ b (drawToast t area b) := by
  obtain ⟨width, htext⟩ := Buffer.drawParagraph_changesOnly_rows (Box.inner area) (text t)
    (frame t.kind area b)
  refine ⟨max area.right width, ((frame_changesOnly t.kind area b).mono fun x y h => ?_).trans
    (htext.mono fun x y h => ?_)⟩
  · simp only [Rect.Has, Rect.right, Rect.bottom] at h ⊢
    omega
  · simp only [Rect.Has, Rect.right, Rect.bottom, Box.inner] at h ⊢
    omega

/-- Toasts are drawn from the row on where the stack goes on. -/
theorem drawFrom_changesOnly_rows (area : Rect) (y : Nat) (ts : List Toast) (b : Buffer) :
    ∃ width height, Buffer.ChangesOnly ⟨0, y, width, height⟩ b (drawFrom area y ts b) := by
  induction ts generalizing y b with
  | nil => exact ⟨0, 0, .refl _ b⟩
  | cons t ts ih =>
      rw [drawFrom]
      split
      · exact ⟨0, 0, .refl _ b⟩
      · let h := (height t.message area.width).toNat
        obtain ⟨width, htoast⟩ := drawToast_changesOnly_rows t { area with y, height := h } b
        obtain ⟨width', height', hrest⟩ := ih (y + h) (drawToast t { area with y, height := h } b)
        refine ⟨max width width', h + height',
          (htoast.mono fun x y' hin => ?_).trans (hrest.mono fun x y' hin => ?_)⟩
        · simp only [Rect.Has, Rect.right, Rect.bottom] at hin ⊢
          omega
        · simp only [Rect.Has, Rect.right, Rect.bottom] at hin ⊢
          omega

theorem holds_inner (hin : b.Holds area) (hwidth : area.width = 44) : b.Holds (Box.inner area) := by
  obtain ⟨hright, hbottom⟩ := hin
  simp only [Rect.right, Rect.bottom] at hright hbottom
  constructor
  · simp only [Box.inner, Rect.right]
    omega
  · simp only [Box.inner, Rect.bottom]
    omega

/-- The rows of a toast are the first ones of its text, and each glyph on them is drawn. -/
theorem drawToast_showsRows (hb : b.Full) (hin : b.Holds area) (hwidth : area.width = 44)
    (t : Toast) : (drawToast t area b).ShowsRows (area.x + 1) (area.y + 1)
      (((text t).rows 42).take (area.height - 2)) := by
  obtain hnone | hsome := Nat.eq_zero_or_pos (area.height - 2)
  · rw [hnone]
    exact Buffer.showsRows_nil _ _ _
  · have hframe := frame_changesOnly t.kind area b
    have hinner : Box.inner area = ⟨area.x + 1, area.y + 1, 42, area.height - 2⟩ := by
      simp only [Box.inner, Rect.right, Rect.bottom, hwidth, Rect.mk.injEq]
      exact ⟨by omega, by omega, trivial, trivial⟩
    have htext := Buffer.drawParagraph_showsRows (p := text t) rfl (hframe.full hb)
      (holds_inner (hin.kept hframe) hwidth) (by rw [hinner]; exact Nat.succ_pos 41)
    rw [hinner] at htext
    rw [drawToast_eq, hinner]
    exact htext

/-- The rows of some toasts, their edges included. -/
def stackHeight (ts : List Toast) : Nat := (ts.map fun t => (height t.message maxWidth).toNat).sum

/-- A toast that fits is drawn, and the stack goes on below it. -/
theorem drawFrom_of_fits (hwidth : area.width = 44)
    (hfits : y + (height t.message maxWidth).toNat ≤ area.bottom) (b : Buffer) :
    drawFrom area y (t :: ts) b =
      drawFrom area (y + (height t.message maxWidth).toNat) ts
        (drawToast t { area with y, height := (height t.message maxWidth).toNat } b) := by
  rw [drawFrom, hwidth]
  exact if_neg (Nat.not_lt.mpr hfits)

/-- A toast in the stack stands below the newer ones. -/
theorem drawFrom_showsRows (hb : b.Full) (hin : b.Holds area) (hwidth : area.width = 44)
    (newer older : List Toast)
    (hfits : y + stackHeight newer + (height t.message maxWidth).toNat ≤ area.bottom) :
    (drawFrom area y (newer ++ t :: older) b).ShowsRows (area.x + 1) (y + stackHeight newer + 1)
      (((text t).rows 42).take ((height t.message maxWidth).toNat - 2)) := by
  induction newer generalizing y b with
  | nil =>
      let own : Rect := { area with y, height := (height t.message maxWidth).toNat }
      have hown : b.Holds own := ⟨hin.1, Nat.le_trans hfits hin.2⟩
      obtain ⟨width, height', hrest⟩ := drawFrom_changesOnly_rows area
        (y + (height t.message maxWidth).toNat) older (drawToast t own b)
      have hfits' : y + (height t.message maxWidth).toNat ≤ area.bottom := hfits
      show (drawFrom area y (t :: older) b).ShowsRows (area.x + 1) (y + 1) _
      rw [drawFrom_of_fits hwidth hfits']
      refine (drawToast_showsRows hb hown hwidth t).kept fun r hr => hrest.sameRow fun h => ?_
      rw [List.length_take] at hr
      have hlast : r < min ((height t.message maxWidth).toNat - 2) ((text t).rows 42).length := hr
      have hbelow : y + (height t.message maxWidth).toNat ≤ y + 1 + r := h.1
      omega
  | cons t' newer ih =>
      have hheight : stackHeight (t' :: newer) =
          (height t'.message maxWidth).toNat + stackHeight newer := by
        rw [stackHeight, List.map_cons, List.sum_cons, stackHeight]
      rw [hheight, ← Nat.add_assoc y] at hfits ⊢
      obtain ⟨width, htoast⟩ := drawToast_changesOnly_rows t'
        { area with y, height := (height t'.message maxWidth).toNat } b
      rw [List.cons_append, drawFrom_of_fits hwidth (by omega)]
      exact ih (htoast.full hb) (hin.kept htoast) hfits

/-- Of the newest toasts each that fits below the newer ones shows its first rows. -/
theorem draw_showsRows (hb : b.Full) (hin : b.Holds area) (hwidth : 56 ≤ area.width)
    {newer older : List Toast} (hts : ts.reverse.take maxCount = newer ++ t :: older)
    (hfits : area.y + stackHeight newer + (height t.message maxWidth).toNat ≤ area.bottom) :
    (draw ts area b).ShowsRows (area.right - 43) (area.y + stackHeight newer + 1)
      (((text t).rows 42).take ((height t.message maxWidth).toNat - 2)) := by
  have hcolumns : min maxWidth area.width = 44 := Nat.min_eq_left (Nat.le_trans (by decide) hwidth)
  let column : Rect := { area with x := area.right - 44, width := 44 }
  have hright : column.right = area.right := by
    show area.x + area.width - 44 + 44 = area.x + area.width
    omega
  have hcolumn : b.Holds column := ⟨hright ▸ hin.1, hin.2⟩
  have hstack := drawFrom_showsRows hb hcolumn rfl newer older hfits
  have hx : column.x + 1 = area.right - 43 := by
    show area.x + area.width - 44 + 1 = area.x + area.width - 43
    omega
  rw [hx, ← hts] at hstack
  rw [draw, hcolumns]
  exact hstack

end

/-- Of a toast nothing counts but its kind and the rows that are kept for it. -/
theorem drawToast_congr {area : Rect} {b : Buffer} (hin : b.Holds area) (hwidth : area.width = 44)
    {t t' : Toast} (hkind : t'.kind = t.kind) (hrows : ((text t').rows 42).take (area.height - 2) =
      ((text t).rows 42).take (area.height - 2)) : drawToast t' area b = drawToast t area b := by
  have hheld := hin.kept (frame_changesOnly t.kind area b)
  have hcolumns : (Box.inner area).width = 42 := by rw [Box.inner, hwidth]
  rw [drawToast_eq, drawToast_eq, hkind]
  refine Buffer.drawParagraph_congr (holds_inner hheld hwidth) rfl rfl ?_
  rw [hcolumns]
  exact hrows

-- ==================================================== plain toasts

/-- The glyphs of a plain toast: its sign, a blank, and its message. -/
theorem glyphs_text (t : Toast) (hplain : ∀ c ∈ t.message.toList, isPlain c = true) :
    ∃ l st st', (text t).lines = [l] ∧ (text t).glyphs =
      ⟨(icon t.kind).toList, st⟩ :: ⟨[' '], st⟩ :: t.message.toList.map fun c => ⟨[c], st'⟩ := by
  have hicon : ∀ kind, drawnClusters (icon kind ++ " ") = [(icon kind).toList, [' ']] := by
    intro kind
    cases kind <;> decide +kernel
  let below := ({} : Style).andThen {}
  let sign : Span := { text := icon t.kind ++ " ", style := .ofFg (color t.kind) }
  let message : Span := { text := t.message, style := Theme.primary }
  have hglyphs : (text t).glyphs = sign.glyphs below ++ (message.glyphs below ++ []) :=
    List.flatMap_singleton ..
  have hsign : sign.glyphs below =
      [⟨(icon t.kind).toList, below.andThen sign.style⟩, ⟨[' '], below.andThen sign.style⟩] := by
    show (drawnClusters sign.text).map _ = _
    rw [hicon t.kind]
    rfl
  refine ⟨_, below.andThen sign.style, below.andThen message.style, rfl, ?_⟩
  rw [hglyphs, hsign, List.append_nil, glyphs_of_plain hplain]
  rfl

theorem icon_narrow (kind : ToastKind) (st : Style) :
    (Glyph.mk (icon kind).toList st).isBlank = false ∧ (Glyph.mk (icon kind).toList st).width = 1 := by
  have hkind : ∀ kind, (Glyph.mk (icon kind).toList {}).isBlank = false ∧
      (Glyph.mk (icon kind).toList {}).width = 1 := by
    intro kind
    cases kind <;> decide +kernel
  exact hkind kind

/-- The rows of a toast's text that are kept. -/
def keptRows (t : Toast) : Nat := (height t.message maxWidth).toNat - 2

/-- The words of the toast are all on the rows that are kept for it. -/
def WordsKept (t : Toast) : Prop := (text t).WordsWithin 42 (keptRows t)

theorem keptRows_of_plain (t : Toast) (hplain : ∀ c ∈ t.message.toList, isPlain c = true) :
    keptRows t = (max ((t.message.toList.length + 37) / 38) 1 + 2) % 65536 - 2 := by
  rw [keptRows, height, width_of_plain hplain, UInt16.toNat_add, UInt16.toNat_ofNat']
  show (max ((t.message.toList.length + 37) / 38) 1 % 65536 + 2) % 65536 - 2 = _
  rw [Nat.mod_add_mod]

/-- The words of a plain toast are all on the rows that are kept, if they are packed behind the sign
into no more. -/
theorem wordsKept_of_plain (t : Toast) {first : List Char} {rest : List (List Char)}
    (hmessage : t.message.toList = spacedWords first rest)
    (hwords : ∀ w ∈ first :: rest, PlainWord w ∧ w.length ≤ 42) :
    WordsKept t ↔ packedRows 42 1 ((first :: rest).map List.length) ≤ keptRows t := by
  have hplain : ∀ c ∈ t.message.toList, isPlain c = true := by
    rw [hmessage]
    exact plain_of_spacedWords fun w hw => (hwords w hw).1
  obtain ⟨l, st, st', hline, hglyphs⟩ := glyphs_text t hplain
  obtain ⟨hblank, hwidth⟩ := icon_narrow t.kind st
  obtain ⟨hfirst, hfirst'⟩ := hwords first List.mem_cons_self
  have hrest : ∀ w ∈ rest, PlainWord w ∧ w.length ≤ 42 :=
    fun w hw => hwords w (List.mem_cons_of_mem _ hw)
  have hsign : Wrap.IsWord 42 [Glyph.mk (icon t.kind).toList st] := by
    refine ⟨List.cons_ne_nil _ _, ?_, ?_, ?_⟩
    · simpa using hblank
    · simp [hwidth]
    · simp [glyphsWidth, hwidth]
  let behind : List (Glyph × List Glyph) :=
    (⟨[' '], st⟩, first.map fun c => ⟨[c], st'⟩) :: gappedWords st' rest
  have hbehind : ∀ e ∈ behind, Wrap.IsGap e.1 ∧ Wrap.IsWord 42 e.2 :=
    List.forall_mem_cons.mpr ⟨⟨space_isGap st, hfirst.isWord st' hfirst'⟩,
      gappedWords_isWord st' hrest⟩
  have hnarrow : ∀ e ∈ behind, Wrap.IsGap e.1 ∧ e.2 ≠ [] ∧ ∀ g ∈ e.2, g.width = 1 :=
    List.forall_mem_cons.mpr ⟨⟨space_isGap st, (hfirst.isWord st' hfirst').ne_nil, hfirst.narrow st'⟩,
      gappedWords_narrow st' fun w hw => (hrest w hw).1⟩
  have hwords' : (text t).glyphs =
      [⟨(icon t.kind).toList, st⟩] ++ behind.flatMap fun e => e.1 :: e.2 := by
    rw [hglyphs, hmessage, map_spacedWords]
    rfl
  rw [WordsKept, (Paragraph.wordsWithin_of_words rfl hline hsign hbehind hwords').2,
    Wrap.length_pack hnarrow]
  have hlengths : behind.map (fun e => e.2.length) = (first :: rest).map List.length := by
    rw [List.map_cons, List.map_cons, lengths_gappedWords, List.length_map]
  have hbegun : glyphsWidth [Glyph.mk (icon t.kind).toList st] = 1 := by
    rw [glyphsWidth, hwidth]
    rfl
  rw [hlengths, hbegun]

/-- A short plain toast has room. -/
theorem wordsKept_of_short (t : Toast) (hplain : ∀ c ∈ t.message.toList, isPlain c = true)
    (hshort : t.message.toList.length ≤ 40) : WordsKept t := by
  obtain ⟨l, st, st', hline, hglyphs⟩ := glyphs_text t hplain
  have hnarrow : ∀ g ∈ (text t).glyphs, g.width = 1 := by
    rw [hglyphs]
    intro g hg
    rcases List.mem_cons.mp hg with rfl | hg
    · exact (icon_narrow t.kind st).2
    · rcases List.mem_cons.mp hg with rfl | hg
      · exact (space_isGap st).width
      · obtain ⟨c, hc, rfl⟩ := List.mem_map.mp hg
        exact (plain_char (hplain c hc)).2.1
  refine Paragraph.wordsWithin_of_narrow rfl hline hnarrow ?_ ?_
  · rw [hglyphs, List.length_cons, List.length_cons, List.length_map]
    omega
  · rw [keptRows_of_plain t hplain]
    omega

-- ==================================================== what is kept of toasts

/-- What becomes of a toast in the rows that are kept for it. -/
structure KeepsRows (t : Toast) (area : Rect) (b : Buffer) : Prop where
  /-- Each glyph on the first rows is drawn, behind the sign and below the newer toasts. -/
  shown : b.Full → b.Holds area → 56 ≤ area.width → ∀ ts newer older : List Toast,
    ts.reverse.take maxCount = newer ++ t :: older →
    let top := area.y + stackHeight newer
    top + (height t.message maxWidth).toNat ≤ area.bottom →
    (draw ts area b).ShowsRows (area.right - 43) (top + 1) (((text t).rows 42).take (keptRows t))
  /-- Nothing else of the text counts. -/
  rest : ∀ (t' : Toast) (box : Rect), b.Holds box → box.width = 44 → t'.kind = t.kind →
    ((text t').rows 42).take (box.height - 2) = ((text t).rows 42).take (box.height - 2) →
    drawToast t' box b = drawToast t box b
  /-- All words are drawn if none comes on a later row. -/
  later : WordsKept t ↔ ∀ row ∈ ((text t).rows 42).drop (keptRows t), ink row = []
  /-- Words with one blank between them are packed into rows. -/
  packed : ∀ (first : List Glyph) (rest : List (Glyph × List Glyph)),
    IsWord 42 first → (∀ e ∈ rest, IsGap e.1 ∧ IsWord 42 e.2) →
    (text t).glyphs = first ++ (rest.flatMap fun e => e.1 :: e.2) →
    (WordsKept t ↔ (pack 42 first rest).length ≤ keptRows t)
  /-- Of plain words the lengths decide. -/
  plain : ∀ (first : List Char) (rest : List (List Char)),
    t.message.toList = spacedWords first rest →
    (∀ w ∈ first :: rest, PlainWord w ∧ w.length ≤ 42) →
    (WordsKept t ↔ packedRows 42 1 ((first :: rest).map List.length) ≤
      (max ((t.message.toList.length + 37) / 38) 1 + 2) % 65536 - 2)
  /-- Short plain text always has room. -/
  short : (∀ c ∈ t.message.toList, isPlain c = true) → t.message.toList.length ≤ 40 → WordsKept t

theorem keepsRows (t : Toast) (area : Rect) (b : Buffer) : KeepsRows t area b where
  shown hb hin hwidth _ _ _ hts := draw_showsRows hb hin hwidth hts
  rest _ _ hin hwidth := drawToast_congr hin hwidth
  later := Paragraph.wordsWithin_iff rfl
  packed _ _ hfirst hrest hwords :=
    (Paragraph.wordsWithin_of_words rfl rfl hfirst hrest hwords).2
  plain first rest hmessage hwords := by
    rw [wordsKept_of_plain t hmessage hwords, keptRows_of_plain t]
    rw [hmessage]
    exact plain_of_spacedWords fun w hw => (hwords w hw).1
  short := wordsKept_of_short t

end ToastStack

-- ==================================================== what is drawn

/-- In a screen with room for the window, the rows that are kept for a question are its first ones:
each glyph on them is drawn, and nothing else of it counts. So all its words are drawn exactly if
none comes on a later row, which for words with one blank between them is a matter of packing. So it
goes with toasts, each behind its sign and below the newer ones.

The questions whether to disable, enable or activate are drawn in full, and the one whether to
delete a function of a plain name up to 49 characters unless these are 20 to 39. -/
theorem words_on_kept_rows (d : Dialog) (t : Toast) (area : Rect) (b : Buffer) :
    d.KeepsRows area b ∧ ToastStack.KeepsRows t area b ∧
    (∀ id disabled, (Dialog.setDisabled id disabled).WordsKept) ∧
    (∀ id version, (Dialog.activateVersion id version).WordsKept) ∧
    ∀ id name, PlainWord name.toList → name.toList.length ≤ 49 →
      ((Dialog.deleteFunction id name).WordsKept ↔
        name.toList.length < 20 ∨ 39 < name.toList.length) :=
  ⟨d.keepsRows area b, ToastStack.keepsRows t area b, Dialog.setDisabled_wordsKept,
    Dialog.activateVersion_wordsKept, fun id _ => Dialog.deleteFunction_wordsKept_iff id⟩

/-- A function's name of 20 characters takes the question to a third row, of which there are two. So
the last word is not drawn: the picture is the same as without it. With words as long as the names
of variables a toast needs three rows as well, and has two. -/
theorem last_word_is_lost :
    (let d := Dialog.deleteFunction "f" "refreshSessionTokens"
     let d' : Dialog := { d with
       message := "Are you sure you want to delete \"refreshSessionTokens\"? This action cannot be" }
     d.messageRows.toNat = 2 ∧ (d.messageText.rows 52).length = 3 ∧ ¬ d.WordsKept ∧
       ∀ area b, b.Holds area → Dialog.windowWidth ≤ area.width → 7 ≤ area.height →
         area.height < 65536 → d'.draw area b = d.draw area b) ∧
    (let message := "Unknown variables DATABASE_CONNECTION_TIMEOUT_MS SESSION_COOKIE_DOMAIN_NAME"
     let t : Toast := ⟨1, message, .error, 0⟩
     ToastStack.keptRows t = 2 ∧ ((ToastStack.text t).rows 42).length = 3 ∧
       ¬ ToastStack.WordsKept t) := by
  refine ⟨?_, ?_⟩
  · intro d d'
    have hname : PlainWord "refreshSessionTokens".toList := by decide
    refine ⟨Dialog.deleteFunction_messageRows "f" hname (by decide),
      Dialog.deleteFunction_length_rows "f" hname (by decide), ?_,
      fun area b hin hwidth hheight hword => ?_⟩
    · rw [Dialog.deleteFunction_wordsKept_iff "f" hname (by decide)]
      decide
    · have hmessage : d'.message.toList = spacedWords "Are".toList
          (Dialog.deleteWords "refreshSessionTokens".toList) := by decide +kernel
      exact Dialog.deleteFunction_without_last_word hname (by decide) (by decide) hmessage rfl rfl
        hin hwidth hheight hword
  · intro message t
    refine ⟨by decide +kernel, by decide +kernel, fun hkept => ?_⟩
    have hlater : ¬ ∀ row ∈ ((ToastStack.text t).rows 42).drop (ToastStack.keptRows t),
        ink row = [] := by decide +kernel
    exact hlater ((Paragraph.wordsWithin_iff rfl).mp hkept)

end FunctionConsole
