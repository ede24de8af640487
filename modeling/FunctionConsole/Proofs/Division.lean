import FunctionConsole.Canvas.Layout
import FunctionConsole.Proofs.SolvedForm
import Mathlib.Algebra.Order.BigOperators.Group.List
import Mathlib.Data.Rat.Floor
import Mathlib.Tactic.Linarith

/-!
# Divided areas

Whatever its parts wish for, a division gives each its own cells: the parts of an area lie in the
area, one behind the other, and no two share a cell (`rows_inside`, `rows_apart`, and the same for
columns). The sizes before rounding are a solution of the conditions that the division starts from,
so none is negative and together they are no more than there is (`sum_sizes_le`); and rounding keeps
the order of places.
-/

namespace FunctionConsole

namespace Rect

/-- A cell is one of the rectangle. -/
def Has (r : Rect) (x y : Nat) : Prop := (r.x ≤ x ∧ x < r.right) ∧ r.y ≤ y ∧ y < r.bottom

/-- All cells of a rectangle are cells of another. -/
def Within (r area : Rect) : Prop := ∀ x y, r.Has x y → area.Has x y

/-- Two rectangles have no common cell. -/
def Apart (r s : Rect) : Prop := ∀ x y, r.Has x y → ¬ s.Has x y

variable {r s t : Rect}

theorem Within.trans (h : r.Within s) (h' : s.Within t) : r.Within t :=
  fun x y hxy => h' x y (h x y hxy)

theorem Apart.mono {r' s' : Rect} (h : r.Apart s) (hr : r'.Within r) (hs : s'.Within s) :
    r'.Apart s' := fun x y hr' hs' => h x y (hr x y hr') (hs x y hs')

end Rect

namespace Layout

open Simplex

-- ==================================================== sizes

section

variable (wishes : List Wish) (gap total : Nat)

/-- The problem before any wish: the parts and the room behind them fill the area. -/
def startProblem : Simplex.Problem :=
  { rows :=
      [{ basic := wishes.length, coeffs := List.replicate (wishes.length + 1) 1
         value := (total - gap * (wishes.length - 1) : Nat) }]
    costs := List.replicate (wishes.length + 1) 0 }

theorem startProblem_solved : (startProblem wishes gap total).Solved := by
  constructor <;> simp only [startProblem, List.mem_singleton, forall_eq]
  case size => simp
  case bound => simp
  case unit => simp [Row.at]
  case same => simp
  case nonneg => exact Nat.cast_nonneg _
  case free => exact List.getD_replicate _ (Nat.lt_succ_self _)

@[simp]
theorem length_coeffsAt (n : Nat) (l : List (Nat × Rat)) : (coeffsAt n l).length = n := by
  simp [coeffsAt]

/-- Every wish is about the parts and the room behind them. -/
theorem length_coeffs_le : ∀ w ∈ allWishes wishes total, w.coeffs.length ≤ wishes.length + 1 := by
  have hpair (l : List (Nat × Rat)) : ∀ w ∈ pairWishes wishes.length l,
      w.coeffs.length ≤ wishes.length + 1 := by
    induction l with
    | nil => nofun
    | cons e rest ih =>
        intro w hw
        obtain hw | hw := List.mem_append.mp hw
        · obtain ⟨e', -, rfl⟩ := List.mem_map.mp hw
          simp [near]
        · exact ih w hw
  intro w hw
  simp only [allWishes, List.mem_append, List.mem_cons, List.mem_flatMap] at hw
  rcases hw with ((rfl | ⟨⟨wish, i⟩, -, hw⟩) | hw) | hw
  · simp [near]
  · cases wish <;> simp only [ownWishes, List.mem_cons, List.not_mem_nil, or_false] at hw
    case min => rcases hw with rfl | rfl <;> simp [near]
    all_goals subst hw; simp [near]
  · exact hpair _ w hw
  · obtain ⟨i, -, rfl⟩ := List.mem_map.mp hw
    simp [near]

/-- After all wishes the form is solved, and what the start says is still true. -/
theorem follows_wishes : (startProblem wishes gap total).Follows
    ((allWishes wishes total).foldl Simplex.Problem.add (startProblem wishes gap total)) :=
  (startProblem_solved wishes gap total).addAll _ fun w hw =>
    (length_coeffs_le wishes total w hw).trans (by simp [startProblem])

theorem sizes_eq : sizes wishes gap total = (List.range wishes.length).map
    ((allWishes wishes total).foldl Simplex.Problem.add (startProblem wishes gap total)).value := rfl

/-- No size is negative. -/
theorem sizes_nonneg : ∀ s ∈ sizes wishes gap total, 0 ≤ s := by
  intro s hs
  rw [sizes_eq] at hs
  obtain ⟨i, -, rfl⟩ := List.mem_map.mp hs
  exact (follows_wishes wishes gap total).solved.value_nonneg i

@[simp]
theorem length_sizes : (sizes wishes gap total).length = wishes.length := by simp [sizes_eq]

/-- The sizes together are no more than the gaps leave. -/
theorem sum_sizes_le :
    (sizes wishes gap total).sum ≤ ((total - gap * (wishes.length - 1) : Nat) : Rat) := by
  have hfollows := follows_wishes wishes gap total
  have hroom := hfollows.solved.value_nonneg wishes.length
  have hstart := hfollows.holds _ hfollows.solved.holds _ List.mem_cons_self
  rw [sizes_eq]
  generalize ((allWishes wishes total).foldl Simplex.Problem.add
    (startProblem wishes gap total)).value = value at hstart hroom ⊢
  have hrow : ∑ i ∈ Finset.range (wishes.length + 1), value i =
      ((total - gap * (wishes.length - 1) : Nat) : Rat) := by
    refine Eq.trans ?_ hstart
    simp only [Row.sum, startProblem, List.length_replicate]
    refine Finset.sum_congr rfl fun i hi => ?_
    rw [Row.at, List.getD_replicate _ (Finset.mem_range.mp hi), one_mul]
  have hparts : ((List.range wishes.length).map value).sum =
      ∑ i ∈ Finset.range wishes.length, value i := by
    simp [Finset.sum, Multiset.range]
  rw [Finset.sum_range_succ, ← hparts] at hrow
  linarith

end

-- ==================================================== places

/-- Rounding keeps the order of places. -/
theorem roundPlace_mono {a b : Rat} (h : a ≤ b) : roundPlace a ≤ roundPlace b := by
  have hfloor : (a * 100 + 1 / 2).floor ≤ (b * 100 + 1 / 2).floor :=
    Rat.floor_monotone (by linarith)
  unfold roundPlace
  dsimp only
  omega

/-- A place that is a cell is left. -/
@[simp]
theorem roundPlace_natCast (n : Nat) : roundPlace n = n := by
  have hfloor : ((n : Rat) * 100 + 1 / 2).floor = n * 100 := by
    apply le_antisymm
    · refine Int.lt_add_one_iff.mp (Rat.floor_lt_iff.mpr ?_)
      push_cast
      linarith
    · refine Rat.le_floor_iff.mpr ?_
      push_cast
      linarith
  unfold roundPlace
  rw [hfloor]
  dsimp only
  omega

/-- What is still to be placed has room behind a place, or takes none. -/
def Room (gap total : Nat) (start : Rat) (rest : List Rat) : Prop :=
  start ≤ total ∧ (start + rest.sum + (gap * (rest.length - 1) : Nat) ≤ total ∨ ∀ s ∈ rest, s = 0)

section

variable {gap total : Nat} {start s : Rat} {rest : List Rat}

/-- The first part ends within the area. -/
theorem Room.first_le (h : Room gap total start (s :: rest)) (hrest : ∀ t ∈ rest, 0 ≤ t) :
    start + s ≤ total := by
  obtain ⟨hstart, hsum | hzero⟩ := h
  · have hrestSum : 0 ≤ rest.sum := List.sum_nonneg hrest
    have hgap : (0 : Rat) ≤ (gap * ((s :: rest).length - 1) : Nat) := Nat.cast_nonneg _
    rw [List.sum_cons] at hsum
    linarith
  · rw [hzero s List.mem_cons_self, add_zero]
    exact hstart

/-- Behind it and a gap there is room for the others. -/
theorem Room.next (h : Room gap total start (s :: rest)) :
    Room gap total (min (start + s + gap) total) rest := by
  refine ⟨min_le_right _ _, ?_⟩
  obtain ⟨-, hsum | hzero⟩ := h
  · cases rest with
    | nil => exact .inr nofun
    | cons t rest =>
        refine .inl ?_
        have hmin : min (start + s + gap) (total : Rat) ≤ start + s + gap := min_le_left _ _
        rw [List.sum_cons] at hsum
        simp only [List.length_cons, Nat.add_sub_cancel] at hsum ⊢
        push_cast at hsum ⊢
        linarith
  · exact .inr fun t ht => hzero t (List.mem_cons_of_mem _ ht)

/-- Parts that have room are placed behind the start, one behind the other, and within the area. -/
theorem places_in_order (hroom : Room gap total start rest) (hrest : ∀ s ∈ rest, 0 ≤ s) :
    ((places gap total start rest).Pairwise fun p q => p.1 + p.2 ≤ q.1) ∧
      ∀ p ∈ places gap total start rest, roundPlace start ≤ p.1 ∧ p.1 + p.2 ≤ total := by
  induction rest generalizing start with
  | nil => exact ⟨.nil, nofun⟩
  | cons s rest ih =>
      have hs : 0 ≤ s := hrest s List.mem_cons_self
      have hothers : ∀ t ∈ rest, 0 ≤ t := fun t ht => hrest t (List.mem_cons_of_mem _ ht)
      have hend : start + s ≤ total := hroom.first_le hothers
      obtain ⟨hpairs, hbehind⟩ := ih hroom.next hothers
      have hmono : roundPlace start ≤ roundPlace (start + s) := roundPlace_mono (by linarith)
      have hgap : roundPlace (start + s) ≤ roundPlace (min (start + s + gap) total) := by
        refine roundPlace_mono (le_min ?_ hend)
        have hnonneg : (0 : Rat) ≤ gap := Nat.cast_nonneg gap
        linarith
      have hlast : roundPlace (start + s) ≤ total := by
        simpa using roundPlace_mono hend
      refine ⟨.cons (fun q hq => ?_) hpairs, fun p hp => ?_⟩
      · have hq := (hbehind q hq).1
        dsimp only
        omega
      · obtain rfl | hp := List.mem_cons.mp hp
        · exact ⟨le_rfl, by dsimp only; omega⟩
        · obtain ⟨hfirst, hin⟩ := hbehind p hp
          exact ⟨by omega, hin⟩

end

/-- The parts of a division stand one behind the other, within the area. -/
theorem divide_in_order (wishes : List Wish) (gap total : Nat) :
    ((divide wishes gap total).Pairwise fun p q => p.1 + p.2 ≤ q.1) ∧
      ∀ p ∈ divide wishes gap total, p.1 + p.2 ≤ total := by
  have hroom : Room gap total 0 (sizes wishes gap total) := by
    have hsum := sum_sizes_le wishes gap total
    refine ⟨Nat.cast_nonneg _, ?_⟩
    rw [length_sizes, zero_add]
    obtain hlt | hle := Nat.lt_or_ge total (gap * (wishes.length - 1))
    · -- without room for the gaps no part has a size
      rw [Nat.sub_eq_zero_of_le hlt.le, Nat.cast_zero] at hsum
      have hzero := le_antisymm hsum (List.sum_nonneg (sizes_nonneg wishes gap total))
      exact .inr fun s hs => le_antisymm
        (hzero ▸ List.single_le_sum (sizes_nonneg wishes gap total) s hs)
        (sizes_nonneg wishes gap total s hs)
    · rw [Nat.cast_sub hle] at hsum
      exact .inl (by linarith)
  obtain ⟨hpairs, hin⟩ := places_in_order hroom (sizes_nonneg wishes gap total)
  exact ⟨hpairs, fun p hp => (hin p hp).2⟩

-- ==================================================== parts

theorem part_eq_or (rs : List Rect) (i : Nat) :
    (∃ h : i < rs.length, part rs i = rs[i]) ∨ part rs i = ⟨0, 0, 0, 0⟩ := by
  obtain hi | hi := Nat.lt_or_ge i rs.length
  · exact .inl ⟨hi, List.getD_eq_getElem _ _ hi⟩
  · exact .inr (List.getD_eq_default _ _ hi)

theorem not_has_empty (x y : Nat) : ¬ (Rect.mk 0 0 0 0).Has x y := fun h =>
  absurd h.1.2 (Nat.not_lt_zero x)

/-- Rectangles in a list of which no two share a cell: neither do their parts by position. -/
theorem parts_apart {rs : List Rect} (h : rs.Pairwise Rect.Apart) {i j : Nat} (hne : i ≠ j) :
    (part rs i).Apart (part rs j) := by
  intro x y hi hj
  obtain ⟨hlti, heqi⟩ | hempty := part_eq_or rs i
  · obtain ⟨hltj, heqj⟩ | hempty := part_eq_or rs j
    · rw [heqi] at hi
      rw [heqj] at hj
      obtain hlt | hgt := Nat.lt_or_gt_of_ne hne
      · exact List.pairwise_iff_getElem.mp h i j hlti hltj hlt x y hi hj
      · exact List.pairwise_iff_getElem.mp h j i hltj hlti hgt x y hj hi
    · rw [hempty] at hj
      exact not_has_empty x y hj
  · rw [hempty] at hi
    exact not_has_empty x y hi

theorem part_within {rs : List Rect} {area : Rect} (h : ∀ r ∈ rs, r.Within area) (i : Nat) :
    (part rs i).Within area := by
  obtain ⟨hlt, heq⟩ | hempty := part_eq_or rs i
  · rw [heq]
    exact h _ (List.getElem_mem hlt)
  · rw [hempty]
    exact fun x y hxy => absurd hxy (not_has_empty x y)

section

variable (area : Rect) (wishes : List Wish)

/-- Parts below each other lie in the area. -/
theorem rows_inside (i : Nat) : (part (rows area wishes) i).Within area := by
  refine part_within (fun r hr x y hxy => ?_) i
  obtain ⟨⟨first, size⟩, hp, rfl⟩ := List.mem_map.mp hr
  have hin := (divide_in_order wishes 0 area.height).2 _ hp
  simp only [Rect.Has, Rect.right, Rect.bottom] at hxy ⊢
  omega

/-- Parts below each other share no cell. -/
theorem rows_apart {i j : Nat} (hne : i ≠ j) :
    (part (rows area wishes) i).Apart (part (rows area wishes) j) := by
  refine parts_apart ?_ hne
  refine List.pairwise_map.mpr ((divide_in_order wishes 0 area.height).1.imp fun hpq x y hp hq => ?_)
  simp only [Rect.Has, Rect.bottom] at hp hq
  omega

/-- Parts side by side lie in the area. -/
theorem columns_inside (gap i : Nat) : (part (columns area wishes gap) i).Within area := by
  refine part_within (fun r hr x y hxy => ?_) i
  obtain ⟨⟨first, size⟩, hp, rfl⟩ := List.mem_map.mp hr
  have hin := (divide_in_order wishes gap area.width).2 _ hp
  simp only [Rect.Has, Rect.right, Rect.bottom] at hxy ⊢
  omega

/-- Parts side by side share no cell. -/
theorem columns_apart (gap : Nat) {i j : Nat} (hne : i ≠ j) :
    (part (columns area wishes gap) i).Apart (part (columns area wishes gap) j) := by
  refine parts_apart ?_ hne
  refine List.pairwise_map.mpr
    ((divide_in_order wishes gap area.width).1.imp fun hpq x y hp hq => ?_)
  simp only [Rect.Has, Rect.right] at hp hq
  omega

end

end Layout

end FunctionConsole
