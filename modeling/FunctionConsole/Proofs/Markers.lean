import FunctionConsole.ErrorReport
import Mathlib.Data.List.Infix

/-!
# Markers in a text

A message is cut at its markers in one pass from the front. `Cut` says what a cut is without the
pass: texts in which no marker occurs, with one marker between any two of them. A text has one cut
only (`cut_iff`), because a marker has its bracket in front and nowhere else: no two markers
overlap, and none begins in the text before another one.

`outside` are the characters that are part of no marker, told place by place. They are what the
pieces of the cut have together (`flatten_pieces`).
-/

namespace FunctionConsole.ErrorReport

-- ==================================================== vocabulary

/-- What a text is cut at. -/
def markers : List (List Char) := [opening, closing]

/-- A text in which no marker occurs. -/
def Unmarked (l : List Char) : Prop := ∀ m ∈ markers, ¬ m <:+: l

instance (l : List Char) : Decidable (Unmarked l) :=
  inferInstanceAs (Decidable (∀ m ∈ markers, ¬ m <:+: l))

/-- A text cut at its markers into texts without any. -/
inductive Cut : List Char → List (List Char) → Prop
  | whole {a : List Char} : Unmarked a → Cut a [a]
  | marker {a m rest : List Char} {ps : List (List Char)} :
      Unmarked a → m ∈ markers → Cut rest ps → Cut (a ++ (m ++ rest)) (a :: ps)

/-- A place of a text that is part of a marker. -/
def InMarker (l : List Char) (i : Nat) : Prop :=
  ∃ j ≤ i, ∃ m ∈ markers, m <+: l.drop j ∧ i < j + m.length

instance (l : List Char) (i : Nat) : Decidable (InMarker l i) :=
  inferInstanceAs (Decidable (∃ j, j ≤ i ∧ ∃ m ∈ markers, m <+: l.drop j ∧ i < j + m.length))

/-- The characters of a text that are part of no marker, in their order. -/
def outside (l : List Char) : List Char :=
  (List.range l.length).filterMap fun i => if InMarker l i then none else l[i]?

-- ==================================================== markers

variable {a b l m rest : List Char} {c : Char}

theorem opening_mem : opening ∈ markers := List.mem_cons_self

theorem closing_mem : closing ∈ markers := List.mem_cons_of_mem _ List.mem_cons_self

theorem toList_opening : "[CODE]".toList = opening := rfl

theorem toList_closing : "[/CODE]".toList = closing := rfl

/-- A marker has its bracket in front and nowhere else. -/
theorem bracket_of_marker (hm : m ∈ markers) : ∃ tail, m = '[' :: tail ∧ '[' ∉ tail := by
  rcases List.mem_pair.mp hm with rfl | rfl
  · exact ⟨opening.tail, rfl, by decide⟩
  · exact ⟨closing.tail, rfl, by decide⟩

theorem markerLength_append (hm : m ∈ markers) (rest : List Char) :
    markerLength (m ++ rest) = m.length := by
  rcases List.mem_pair.mp hm with rfl | rfl
  · rfl
  · rfl

theorem markerLength_eq_zero (h : ∀ m ∈ markers, ¬ m <+: l) : markerLength l = 0 := by
  rw [markerLength, if_neg, if_neg]
  · rw [List.isPrefixOf_iff_prefix]
    exact h closing closing_mem
  · rw [List.isPrefixOf_iff_prefix]
    exact h opening opening_mem

-- ==================================================== texts without markers

theorem unmarked_nil : Unmarked [] := by
  intro m hm hpart
  obtain ⟨tail, rfl, -⟩ := bracket_of_marker hm
  exact List.cons_ne_nil _ _ (List.infix_nil.mp hpart)

theorem Unmarked.tail (h : Unmarked (c :: a)) : Unmarked a := fun m hm hpart =>
  h m hm (List.infix_cons hpart)

theorem unmarked_cons (hfront : ∀ m ∈ markers, ¬ m <+: c :: a) (h : Unmarked a) :
    Unmarked (c :: a) := by
  intro m hm hpart
  rcases List.infix_cons_iff.mp hpart with hstart | hpart
  · exact hfront m hm hstart
  · exact h m hm hpart

/-- Texts without markers are joined to one, if the second begins or the first ends with a character
that is in no marker, or if one is empty. -/
theorem Unmarked.append (ha : Unmarked a) (hb : Unmarked b)
    (hseam : (∀ x ∈ a.getLast?, ∀ m ∈ markers, x ∉ m) ∨ ∀ x ∈ b.head?, ∀ m ∈ markers, x ∉ m) :
    Unmarked (a ++ b) := by
  intro m hm hpart
  rcases List.infix_append_iff.mp hpart with hpart | hpart | ⟨front, back, rfl, hfront, hback⟩
  · exact ha m hm hpart
  · exact hb m hm hpart
  · -- a marker over the seam would have the character before or behind it
    rcases List.eq_nil_or_concat front with rfl | ⟨front, x, rfl⟩
    · exact hb _ hm hback.isInfix
    · cases back with
      | nil => exact ha _ hm (by simpa using hfront.isInfix)
      | cons y back =>
          rcases hseam with hlast | hfirst
          · obtain ⟨before, rfl⟩ := hfront
            exact hlast x (by simp) _ hm (by simp)
          · obtain ⟨after, rfl⟩ := hback
            exact hfirst y (by simp) _ hm (by simp)

/-- Before a marker no other begins: its bracket would be in the middle of that one. -/
theorem not_prefix_before (ha : Unmarked (c :: a)) (hm : m ∈ markers) (rest : List Char) :
    ∀ w ∈ markers, ¬ w <+: c :: (a ++ (m ++ rest)) := by
  intro w hw hstart
  rw [← List.cons_append] at hstart
  obtain ⟨tail, rfl, -⟩ := bracket_of_marker hm
  obtain ⟨inner, hinner, hfree⟩ := bracket_of_marker hw
  rcases List.prefix_or_prefix_of_prefix hstart (List.prefix_append (c :: a) _) with hle | hle
  · exact ha w hw hle.isInfix
  · obtain ⟨back, rfl⟩ := hle
    rw [List.prefix_append_right_inj] at hstart
    cases back with
    | nil => exact ha _ hw (by simp)
    | cons x back =>
        obtain ⟨after, hafter⟩ := hstart
        obtain rfl : x = '[' := by simpa using congrArg List.head? hafter
        have hmem : '[' ∈ inner := by
          rw [List.cons_append] at hinner
          rw [← (List.cons.inj hinner).2]
          simp
        exact hfree hmem

-- ==================================================== pieces

theorem piecesFrom_drop (k : Nat) (l : List Char) : piecesFrom k l = pieces (l.drop k) := by
  induction l generalizing k with
  | nil => rw [List.drop_nil, pieces, piecesFrom, piecesFrom]
  | cons c l ih =>
      cases k with
      | zero => rfl
      | succ k => rw [piecesFrom, ih, List.drop_succ_cons]

theorem pieces_marker (hm : m ∈ markers) (rest : List Char) :
    pieces (m ++ rest) = [] :: pieces rest := by
  obtain ⟨tail, rfl, -⟩ := bracket_of_marker hm
  have hlength := markerLength_append hm rest
  rw [List.length_cons] at hlength
  rw [pieces, List.cons_append, piecesFrom, ← List.cons_append, hlength]
  dsimp only
  rw [piecesFrom_drop, List.drop_left]

theorem pieces_ne_nil (l : List Char) : pieces l ≠ [] := by
  induction l with
  | nil => rw [pieces, piecesFrom]; exact List.cons_ne_nil _ _
  | cons c l ih =>
      rw [pieces, piecesFrom]
      split
      · exact List.cons_ne_nil _ _
      · split
        · exact List.cons_ne_nil _ _
        · exact List.cons_ne_nil _ _

theorem pieces_cons (h : ∀ m ∈ markers, ¬ m <+: c :: l) {piece : List Char}
    {more : List (List Char)} (hl : pieces l = piece :: more) :
    pieces (c :: l) = (c :: piece) :: more := by
  rw [pieces] at hl
  rw [pieces, piecesFrom, markerLength_eq_zero h]
  dsimp only
  rw [hl]

/-- A text up to its first marker is its first piece. -/
theorem pieces_append (ha : Unmarked a) (hm : m ∈ markers) (rest : List Char) :
    pieces (a ++ (m ++ rest)) = a :: pieces rest := by
  induction a with
  | nil => exact pieces_marker hm rest
  | cons c a ih => exact pieces_cons (not_prefix_before ha hm rest) (ih ha.tail)

theorem pieces_unmarked (ha : Unmarked a) : pieces a = [a] := by
  induction a with
  | nil => rfl
  | cons c a ih =>
      have hfront : ∀ m ∈ markers, ¬ m <+: c :: a := fun m hm hstart =>
        ha m hm hstart.isInfix
      exact pieces_cons hfront (ih ha.tail)

theorem cut_pieces (l : List Char) : Cut l (pieces l) := by
  -- by the length: a character is passed alone, a marker as a whole
  induction hlength : l.length using Nat.strong_induction_on generalizing l with
  | h n ih =>
      by_cases hfront : ∀ m ∈ markers, ¬ m <+: l
      · cases l with
        | nil => exact .whole unmarked_nil
        | cons c l =>
            obtain ⟨piece, more, hl⟩ := List.exists_cons_of_ne_nil (pieces_ne_nil l)
            have hcut : Cut l (piece :: more) := by
              rw [← hl]
              exact ih l.length (by rw [← hlength, List.length_cons]; omega) l rfl
            rw [pieces_cons hfront hl]
            cases hcut with
            | whole hpiece => exact .whole (unmarked_cons hfront hpiece)
            | marker hpiece hm hrest =>
                refine .marker (unmarked_cons (fun w hw hstart => ?_) hpiece) hm hrest
                exact hfront w hw (hstart.trans (List.prefix_append (c :: piece) _))
      · push Not at hfront
        obtain ⟨m, hm, rest, rfl⟩ := hfront
        obtain ⟨tail, hm', -⟩ := bracket_of_marker hm
        have hshorter : rest.length < n := by
          rw [← hlength, hm', List.length_append, List.length_cons]
          omega
        rw [pieces_marker hm rest]
        exact .marker unmarked_nil hm (ih _ hshorter rest rfl)

/-- The pieces of a text are its cut, and it has no other. -/
theorem cut_iff {ps : List (List Char)} : Cut l ps ↔ pieces l = ps := by
  constructor
  · intro h
    induction h with
    | whole ha => exact pieces_unmarked ha
    | marker ha hm _ ih => rw [pieces_append ha hm, ih]
  · rintro rfl
    exact cut_pieces l

-- ==================================================== places

theorem inMarker_zero : InMarker l 0 ↔ ∃ m ∈ markers, m <+: l := by
  constructor
  · rintro ⟨j, hj, m, hm, hstart, -⟩
    obtain rfl : j = 0 := Nat.le_zero.mp hj
    exact ⟨m, hm, hstart⟩
  · rintro ⟨m, hm, hstart⟩
    obtain ⟨tail, rfl, -⟩ := bracket_of_marker hm
    exact ⟨0, Nat.le_refl 0, _, hm, hstart, by simp⟩

/-- A place behind the first is part of a marker that begins in front, or of a later one. -/
theorem inMarker_succ {i : Nat} :
    InMarker (c :: l) (i + 1) ↔
      (∃ m ∈ markers, m <+: c :: l ∧ i + 1 < m.length) ∨ InMarker l i := by
  constructor
  · rintro ⟨j, hj, m, hm, hstart, hlt⟩
    cases j with
    | zero => exact .inl ⟨m, hm, hstart, by omega⟩
    | succ j => exact .inr ⟨j, by omega, m, hm, hstart, by omega⟩
  · rintro (⟨m, hm, hstart, hlt⟩ | ⟨j, hj, m, hm, hstart, hlt⟩)
    · exact ⟨0, Nat.zero_le _, m, hm, hstart, by omega⟩
    · exact ⟨j + 1, by omega, m, hm, hstart, by omega⟩

theorem outside_cons (h : ∀ m ∈ markers, ¬ m <+: c :: l) : outside (c :: l) = c :: outside l := by
  have hzero : ¬ InMarker (c :: l) 0 := by
    rw [inMarker_zero]
    rintro ⟨m, hm, hstart⟩
    exact h m hm hstart
  have hsucc : ∀ i, InMarker (c :: l) (i + 1) ↔ InMarker l i := by
    intro i
    rw [inMarker_succ, or_iff_right]
    rintro ⟨m, hm, hstart, -⟩
    exact h m hm hstart
  rw [outside, List.length_cons, List.range_succ_eq_map, List.filterMap_cons, if_neg hzero,
    List.filterMap_map]
  simp only [List.getElem?_cons_zero, Function.comp_def, Nat.succ_eq_add_one, hsucc,
    List.getElem?_cons_succ]
  rfl

/-- Within a marker, and behind its bracket, no other begins. -/
theorem inMarker_append (hfree : '[' ∉ a) (i : Nat) :
    InMarker (a ++ l) (a.length + i) ↔ InMarker l i := by
  induction a with
  | nil => rw [List.nil_append, List.length_nil, Nat.zero_add]
  | cons c a ih =>
      rw [List.mem_cons, not_or] at hfree
      rw [List.cons_append, List.length_cons, Nat.add_right_comm, inMarker_succ, ih hfree.2]
      apply or_iff_right
      rintro ⟨m, hm, ⟨rest, hrest⟩, -⟩
      obtain ⟨tail, rfl, -⟩ := bracket_of_marker hm
      exact hfree.1 (List.cons.inj hrest).1

theorem inMarker_of_lt {i : Nat} (hm : m ∈ markers) (h : i < m.length) : InMarker (m ++ rest) i :=
  ⟨0, Nat.zero_le i, m, hm, List.prefix_append m rest, by omega⟩

theorem inMarker_behind (hm : m ∈ markers) (i : Nat) :
    InMarker (m ++ rest) (m.length + i) ↔ InMarker rest i := by
  have hlength : ∀ w ∈ markers, w <+: m ++ rest → w.length = m.length := by
    rintro w hw ⟨after, hafter⟩
    rw [← markerLength_append hw after, hafter, markerLength_append hm]
  obtain ⟨tail, rfl, hfree⟩ := bracket_of_marker hm
  rw [List.cons_append, List.length_cons, Nat.add_right_comm, inMarker_succ, inMarker_append hfree]
  apply or_iff_right
  rintro ⟨w, hw, hstart, hlt⟩
  rw [hlength w hw hstart, List.length_cons] at hlt
  omega

theorem outside_marker (hm : m ∈ markers) (rest : List Char) :
    outside (m ++ rest) = outside rest := by
  rw [outside, List.length_append, List.range_add, List.filterMap_append, List.filterMap_map]
  have hmarker : (List.range m.length).filterMap (fun i =>
      if InMarker (m ++ rest) i then none else (m ++ rest)[i]?) = [] := by
    rw [List.filterMap_eq_nil_iff]
    intro i hi
    exact if_pos (inMarker_of_lt hm (List.mem_range.mp hi))
  rw [hmarker, List.nil_append, outside]
  refine List.filterMap_congr fun i _ => ?_
  rw [Function.comp_apply, List.getElem?_append_right (Nat.le_add_right _ _),
    Nat.add_sub_cancel_left]
  exact if_congr (inMarker_behind hm i) rfl rfl

theorem outside_append (ha : Unmarked a) (hm : m ∈ markers) (rest : List Char) :
    outside (a ++ (m ++ rest)) = a ++ outside rest := by
  induction a with
  | nil => exact outside_marker hm rest
  | cons c a ih =>
      rw [List.cons_append, outside_cons (not_prefix_before ha hm rest), ih ha.tail,
        List.cons_append]

theorem outside_unmarked (ha : Unmarked a) : outside a = a := by
  induction a with
  | nil => rfl
  | cons c a ih =>
      rw [outside_cons fun m hm hstart => ha m hm hstart.isInfix, ih ha.tail]

/-- What is part of no marker are the pieces of a text, one after the other. -/
theorem flatten_pieces (l : List Char) : (pieces l).flatten = outside l := by
  have hcut : ∀ {l ps}, Cut l ps → ps.flatten = outside l := by
    intro l ps h
    induction h with
    | whole ha => rw [outside_unmarked ha, List.flatten_singleton]
    | marker ha hm _ ih => rw [outside_append ha hm, List.flatten_cons, ih]
  exact hcut (cut_pieces l)

end FunctionConsole.ErrorReport
