import FunctionConsole.Frame.Execution
import FunctionConsole.Proofs.TextEnds
import FunctionConsole.Proofs.Web.Segments

/-!
# Rows for cards

The cards of an execution ask for the rows that their lines take and two for the edges
(`ErrorReport.wantedRows_eq_lines`), the card of the event for ten at the most. Counting in words of
16 bits comes before the limit of ten, so what a card gets is the remainder of its lines:
`ExecutionScreen.rows_kept_for_cards` says what is kept for each card, and for which numbers of
lines that is what the card asks for. An event of 65536 lines gets the edges of its card alone.
-/

namespace FunctionConsole

-- ==================================================== reports

namespace ErrorReport

/-- The rows that the card of a report asks for, counted in full. -/
def wantedRows (r : ErrorReport) : Nat :=
  2 + (if r.description.isSome then 2 else 0) +
    (match r.code with
      | some c => (Text.lines c).length + 1
      | none => 0) +
    (if r.tip.isSome then 1 else 0)

/-- A card asks for its lines and its edges. -/
theorem wantedRows_eq_lines (r : ErrorReport) : r.wantedRows = r.lines.length + 2 := by
  obtain ⟨description, code, tip⟩ := r
  cases description <;> cases code <;> cases tip <;> simp [wantedRows, lines] <;> omega

/-- What is kept for a card is what is left of its rows modulo the words they are counted in. -/
theorem toNat_cardRows (r : ErrorReport) : r.cardRows.toNat = r.wantedRows % 65536 := by
  obtain ⟨description, code, tip⟩ := r
  cases description <;> cases code <;> cases tip <;>
    simp [cardRows, wantedRows, UInt16.toNat_add]

/-- A card gets what it asks for, or as much of it as a word can say, if its rows fit into a word;
beyond that only where the remainder happens to be the greatest word. -/
theorem cardRows_eq_iff (r : ErrorReport) : r.cardRows.toNat = min r.wantedRows 65535 ↔
    r.wantedRows < 65536 ∨ r.wantedRows % 65536 = 65535 := by
  rw [toNat_cardRows]
  omega

end ErrorReport

-- ==================================================== events

/-- The smaller of two words is the one with the smaller value. -/
theorem toNat_min (a b : UInt16) : (min a b).toNat = min a.toNat b.toNat := by
  show (if a ≤ b then a else b).toNat = _
  by_cases hle : a ≤ b
  · rw [if_pos hle, Nat.min_eq_left (UInt16.le_iff_toNat_le.mp hle)]
  · rw [if_neg hle, Nat.min_eq_right]
    exact Nat.le_of_not_le fun h => hle (UInt16.le_iff_toNat_le.mpr h)

section

variable (text : String)

/-- The limit is applied to the remainder of the rows. -/
theorem toNat_eventRows :
    (eventRows (some text)).toNat = min (((Text.lines text).length + 2) % 65536) 10 := by
  have hsum : (UInt16.ofNat (Text.lines text).length + 2).toNat =
      ((Text.lines text).length + 2) % 65536 := by
    rw [UInt16.toNat_add, UInt16.toNat_ofNat']
    exact Nat.mod_add_mod _ _ _
  rw [eventRows, toNat_min, hsum]
  rfl

/-- An event gets the rows of its lines up to the limit, unless its remainder is below it. -/
theorem eventRows_eq_iff :
    (eventRows (some text)).toNat = min ((Text.lines text).length + 2) 10 ↔
      (Text.lines text).length + 2 < 65536 ∨ 10 ≤ ((Text.lines text).length + 2) % 65536 := by
  rw [toNat_eventRows]
  omega

/-- No row within the edges is kept exactly if the remainder is no more than the edges. -/
theorem eventRows_le_two_iff :
    (eventRows (some text)).toNat ≤ 2 ↔ ((Text.lines text).length + 2) % 65536 ≤ 2 := by
  rw [toNat_eventRows]
  omega

end

-- ==================================================== the screen

namespace ExecutionScreen

/-- For each execution the areas are divided by the rows that its cards ask for, modulo the words in
which they are counted, and only then by the limit for events. So a report gets its rows exactly if
they fit into a word or leave the greatest word, and an event gets its rows up to the limit exactly
if they fit into a word or leave no less than the limit. -/
theorem rows_kept_for_cards (s : ExecutionScreen) (e : Execution) (area : Rect) :
    areas s.errorReport e.prettyEvent area = Layout.rows area
      [.length 2,
       .length (match s.errorReport with
         | some r => r.wantedRows % 65536
         | none => 0),
       .length (match e.prettyEvent with
         | some text => min (((Text.lines text).length + 2) % 65536) 10
         | none => 3),
       .min 3] ∧
    (∀ r ∈ s.errorReport,
      r.wantedRows = r.lines.length + 2 ∧
      (r.cardRows.toNat = min r.wantedRows 65535 ↔
        r.wantedRows < 65536 ∨ r.wantedRows % 65536 = 65535)) ∧
    ∀ text ∈ e.prettyEvent,
      let rows := (Text.lines text).length + 2
      ((eventRows e.prettyEvent).toNat = min rows 10 ↔ rows < 65536 ∨ 10 ≤ rows % 65536) ∧
      ((eventRows e.prettyEvent).toNat ≤ 2 ↔ rows % 65536 ≤ 2) := by
  refine ⟨?_, fun r _ => ⟨r.wantedRows_eq_lines, r.cardRows_eq_iff⟩, fun text htext => ?_⟩
  · rw [areas]
    congr 4
    · cases s.errorReport with
      | none => rfl
      | some r => exact r.toNat_cardRows
    · cases e.prettyEvent with
      | none => rfl
      | some text => exact congrArg Wish.length (toNat_eventRows text)
  · rw [Option.mem_def.mp htext]
    exact ⟨eventRows_eq_iff text, eventRows_le_two_iff text⟩

-- ==================================================== a long event

/-- A text of two characters with so many line breaks between them. -/
def spaced (breaks : Nat) : String := String.ofList ('x' :: (List.replicate breaks '\n' ++ ['x']))

theorem splitOnChar_breaks (n : Nat) (cs : List Char) :
    Text.splitOnChar (· == '\n') (List.replicate n '\n' ++ cs) =
      List.replicate n [] ++ Text.splitOnChar (· == '\n') cs := by
  induction n with
  | zero => rfl
  | succ n ih =>
      rw [List.replicate_succ, List.replicate_succ, List.cons_append, List.cons_append,
        Text.splitOnChar, ih]
      exact if_pos rfl

/-- Each line break begins a line. -/
theorem length_lines_spaced (breaks : Nat) :
    (Text.lines (spaced (breaks + 1))).length = breaks + 2 := by
  have hpieces : Text.splitOnChar (· == '\n') (spaced (breaks + 1)).toList =
      ['x'] :: (List.replicate breaks [] ++ [['x']]) := by
    rw [spaced, String.toList_ofList]
    show Text.splitOnChar (· == '\n') (['x'] ++ '\n' :: (List.replicate breaks '\n' ++ ['x'])) = _
    rw [Web.splitOnChar_append rfl, splitOnChar_breaks]
    rfl
  have hlast : (['x'] :: (List.replicate breaks [] ++ [['x']])).getLast? ≠ some [] := by
    rw [← List.cons_append, List.getLast?_concat]
    decide
  simp only [Text.lines, hpieces, if_neg hlast, List.length_map, List.length_zipIdx]
  simp

/-- The text is no document, and there is nothing to trim. -/
theorem prettyEvent_spaced (breaks : Nat) (e : Execution) (h : e.eventJson = some (spaced breaks)) :
    e.prettyEvent = some (spaced breaks) := by
  have hend : ∀ c ∈ some 'x', Text.isBlank c = false := by
    rintro c ⟨⟩
    rfl
  have hfirst : ∀ c ∈ ('x' :: (List.replicate breaks '\n' ++ ['x'])).head?,
      Text.isBlank c = false := hend
  have hlast : ∀ c ∈ ('x' :: (List.replicate breaks '\n' ++ ['x'])).getLast?,
      Text.isBlank c = false := by
    rwa [← List.cons_append, List.getLast?_concat]
  have htrim : Text.trim (spaced breaks) = spaced breaks := by
    rw [Text.trim, spaced, String.toList_ofList, Text.trimChars,
      Text.dropAroundWhile_of_ends hfirst hlast]
  have hvisible : Text.isAllBlank (spaced breaks) = false := by
    rw [Text.isAllBlank, spaced, String.toList_ofList]
    rfl
  have hparse : Json.parse (spaced breaks) = .error ⟨.valueExpected, ⟨1, 1⟩⟩ := by
    rw [Json.parse, spaced, String.toList_ofList]
    rfl
  rw [Execution.prettyEvent, h]
  show (Text.nonBlank? (Text.trim (spaced breaks))).map prettyText = _
  rw [htrim, Text.nonBlank?, hvisible, if_neg Bool.false_ne_true, Option.map_some, prettyText,
    hparse]

/-- An event of 65536 lines asks for more than the limit and gets no row within the edges. -/
theorem long_event_gets_two_rows :
    let e : Execution := ⟨"e", "f", .success, none, 0, some (spaced 65535), none⟩
    ∃ text, e.prettyEvent = some text ∧ (Text.lines text).length = 65536 ∧
      (eventRows e.prettyEvent).toNat = 2 ∧ min ((Text.lines text).length + 2) 10 = 10 := by
  intro e
  have hpretty : e.prettyEvent = some (spaced 65535) := prettyEvent_spaced 65535 e rfl
  have hlength : (Text.lines (spaced 65535)).length = 65536 := length_lines_spaced 65534
  refine ⟨spaced 65535, hpretty, hlength, ?_, ?_⟩
  · rw [hpretty, toNat_eventRows, hlength]
    rfl
  · rw [hlength]
    rfl

end ExecutionScreen

end FunctionConsole
