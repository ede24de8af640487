import FunctionConsole.Canvas.Simplex
import Mathlib.Algebra.BigOperators.Ring.Finset
import Mathlib.Algebra.Order.Field.Rat
import Mathlib.Data.List.GetD
import Mathlib.Tactic.Ring

/-!
# Solved forms

What the simplex method keeps from step to step. A problem is in solved form (`Problem.Solved`) if
each row has its basic variable to itself, no value is negative, and basic variables cost nothing.
Then its values are a solution of its rows (`Solved.holds`). A step leads from a solved form to
another whose solutions are solutions of the first, and so does a wish that is added: whatever the
wishes are, the conditions of the start are kept.
-/

namespace FunctionConsole.Simplex

-- ==================================================== rows as functions of the variables

theorem getD_lessTimes (k : Rat) {a b : List Rat} (h : a.length = b.length) (i : Nat) :
    (lessTimes k a b).getD i 0 = a.getD i 0 - k * b.getD i 0 := by
  unfold lessTimes
  split
  · next hk => simp [hk]
  · obtain hi | hi := Nat.lt_or_ge i a.length
    · have hib : i < b.length := h ▸ hi
      simp only [List.getD_eq_getElem?_getD, List.getElem?_zipWith, List.getElem?_eq_getElem hi,
        List.getElem?_eq_getElem hib, Option.getD_some]
      split
      · next hzero => simp [hzero]
      · rfl
    · have hib : b.length ≤ i := h ▸ hi
      simp [List.getD_eq_getElem?_getD, List.getElem?_zipWith, List.getElem?_eq_none hi,
        List.getElem?_eq_none hib]

theorem length_lessTimes (k : Rat) {a b : List Rat} (h : a.length = b.length) :
    (lessTimes k a b).length = a.length := by
  unfold lessTimes
  split <;> simp [h]

namespace Row

variable {r s : Row} {j : Nat}

@[simp]
theorem basic_solveFor (r : Row) (j : Nat) : (r.solveFor j).basic = j := by
  unfold solveFor
  dsimp only
  split <;> rfl

@[simp]
theorem length_solveFor (r : Row) (j : Nat) : (r.solveFor j).coeffs.length = r.coeffs.length := by
  unfold solveFor
  dsimp only
  split <;> simp

theorem value_solveFor (r : Row) (j : Nat) : (r.solveFor j).value = r.value / r.at j := by
  unfold solveFor
  dsimp only
  split
  · next hone => simp [hone]
  · rfl

theorem at_solveFor (r : Row) (j i : Nat) : (r.solveFor j).at i = r.at i / r.at j := by
  unfold solveFor
  dsimp only
  split
  · next hone => rw [hone, div_one, Row.at, Row.at]
  · obtain hi | hi := Nat.lt_or_ge i r.coeffs.length
    · simp [Row.at, List.getD_eq_getElem?_getD, List.getElem?_map, List.getElem?_eq_getElem hi]
    · simp [Row.at, List.getD_eq_getElem?_getD, List.getElem?_map, List.getElem?_eq_none hi]

@[simp]
theorem basic_eliminate (r s : Row) (j : Nat) : (r.eliminate s j).basic = r.basic := by
  unfold eliminate
  dsimp only
  split <;> rfl

theorem length_eliminate (h : r.coeffs.length = s.coeffs.length) :
    (r.eliminate s j).coeffs.length = r.coeffs.length := by
  unfold eliminate
  dsimp only
  split
  · rfl
  · exact length_lessTimes _ h

theorem value_eliminate (r s : Row) (j : Nat) :
    (r.eliminate s j).value = r.value - r.at j * s.value := by
  unfold eliminate
  dsimp only
  split
  · next hzero => simp [hzero]
  · rfl

theorem at_eliminate (h : r.coeffs.length = s.coeffs.length) (i : Nat) :
    (r.eliminate s j).at i = r.at i - r.at j * s.at i := by
  unfold eliminate
  dsimp only
  split
  · next hzero => simp [hzero]
  · exact getD_lessTimes _ h i

/-- What the row is for some values of the first `n` variables. -/
def sum (r : Row) (n : Nat) (x : Nat → Rat) : Rat := ∑ i ∈ Finset.range n, r.at i * x i

theorem sum_solveFor (r : Row) (n : Nat) (x : Nat → Rat) :
    (r.solveFor j).sum n x = r.sum n x / r.at j := by
  simp only [sum, at_solveFor, div_eq_mul_inv, Finset.sum_mul]
  exact Finset.sum_congr rfl fun i _ => by ring

theorem sum_eliminate (h : r.coeffs.length = s.coeffs.length) (n : Nat) (x : Nat → Rat) :
    (r.eliminate s j).sum n x = r.sum n x - r.at j * s.sum n x := by
  simp only [sum, at_eliminate h, Finset.mul_sum, ← Finset.sum_sub_distrib]
  exact Finset.sum_congr rfl fun i _ => by ring

/-- A row with two columns more. -/
def widened (r : Row) : Row := { r with coeffs := r.coeffs ++ [0, 0] }

@[simp]
theorem at_widened (r : Row) (i : Nat) : r.widened.at i = r.at i := by
  unfold Row.at widened
  simp only [List.getD_eq_getElem?_getD]
  obtain hi | hi := Nat.lt_or_ge i r.coeffs.length
  · rw [List.getElem?_append_left hi]
  · rw [List.getElem?_append_right hi, List.getElem?_eq_none hi]
    match i - r.coeffs.length with
    | 0 | 1 | _ + 2 => rfl

theorem at_of_length_le {r : Row} {i : Nat} (h : r.coeffs.length ≤ i) : r.at i = 0 := by
  rw [Row.at, List.getD_eq_getElem?_getD, List.getElem?_eq_none h]
  rfl

theorem sum_widened {r : Row} {n : Nat} (h : r.coeffs.length = n) (x : Nat → Rat) :
    r.widened.sum (n + 2) x = r.sum n x := by
  simp only [sum, at_widened, Finset.sum_range_succ]
  rw [at_of_length_le h.le, at_of_length_le (h.le.trans (Nat.le_succ n))]
  ring

end Row

-- ==================================================== what enters and what gives way

/-- The variable that enters costs less than nothing. -/
theorem entering_spec {costs : List Rat} : ∀ j ∈ entering? costs,
    j < costs.length ∧ costs.getD j 0 < 0 := by
  intro j hj
  obtain ⟨hlt, hneg, -⟩ := List.findIdx?_eq_some_iff_getElem.mp hj
  refine ⟨hlt, ?_⟩
  rw [List.getD_eq_getElem _ _ hlt]
  exact of_decide_eq_true hneg

/-- Of some rows none has a positive coefficient of a variable, or one of them has the least
ratio. -/
def Least (j : Nat) (rows : List Row) : Option Row → Prop
  | none => ∀ r ∈ rows, r.at j ≤ 0
  | some out => out ∈ rows ∧ 0 < out.at j ∧
      ∀ r ∈ rows, 0 < r.at j → out.value / out.at j ≤ r.value / r.at j

theorem Least.skip {j : Nat} {rows : List Row} {best : Option Row} (h : Least j rows best) {r : Row}
    (hr : r.at j ≤ 0) : Least j (rows ++ [r]) best := by
  cases best with
  | none => simpa [Least, or_imp, forall_and, hr] using h
  | some s =>
      obtain ⟨hmem, hs, hleast⟩ := h
      refine ⟨List.mem_append_left _ hmem, hs, fun q hq hpos => ?_⟩
      obtain hq | rfl := by simpa using hq
      · exact hleast q hq hpos
      · exact absurd hpos (not_lt.mpr hr)

theorem Least.replace {j : Nat} {rows : List Row} {best : Option Row} (h : Least j rows best)
    {r : Row} (hr : 0 < r.at j)
    (hbetter : ∀ s ∈ best, r.value * s.at j ≤ s.value * r.at j) :
    Least j (rows ++ [r]) (some r) := by
  refine ⟨by simp, hr, fun q hq hpos => ?_⟩
  obtain hq | rfl := by simpa using hq
  · cases best with
    | none => exact absurd hpos (not_lt.mpr (h q hq))
    | some s =>
        obtain ⟨-, hs, hleast⟩ := h
        have hle : r.value / r.at j ≤ s.value / s.at j :=
          (div_le_div_iff₀ hr hs).mpr (hbetter s rfl)
        exact hle.trans (hleast q hq hpos)
  · exact le_rfl

theorem Least.keep {j : Nat} {rows : List Row} {s r : Row} (h : Least j rows (some s))
    (hr : 0 < r.at j) (hworse : s.value * r.at j ≤ r.value * s.at j) :
    Least j (rows ++ [r]) (some s) := by
  obtain ⟨hmem, hs, hleast⟩ := h
  refine ⟨List.mem_append_left _ hmem, hs, fun q hq hpos => ?_⟩
  obtain hq | rfl := by simpa using hq
  · exact hleast q hq hpos
  · exact (div_le_div_iff₀ hs hr).mpr hworse

/-- The row that gives way is one of least ratio. -/
theorem leaving_least (rows : List Row) (j : Nat) : Least j rows (leaving? rows j) := by
  induction rows using List.reverseRecOn with
  | nil => exact nofun
  | append_singleton rows r ih =>
      rw [leaving?, List.foldl_append, ← leaving?, List.foldl_cons, List.foldl_nil]
      split
      · next hskip => exact ih.skip hskip
      · next hpos =>
        have hr : 0 < r.at j := not_le.mp hpos
        cases hbest : leaving? rows j with
        | none => exact ih.replace hr (by simp [hbest])
        | some s =>
            dsimp only
            split
            · next hbetter =>
                refine ih.replace hr fun t ht => ?_
                rw [hbest] at ht
                cases ht
                exact hbetter.elim le_of_lt fun h => h.1.le
            · next hworse =>
                rw [hbest] at ih
                exact ih.keep hr (not_lt.mp fun hlt => hworse (.inl hlt))

-- ==================================================== what becomes of rows

/-- What becomes of a row when another gives way to a variable. -/
def turned (out : Row) (j : Nat) (r : Row) : Row :=
  if r.basic = out.basic then out.solveFor j else r.eliminate (out.solveFor j) j

section

variable {out r s : Row} {j : Nat}

theorem basic_turned : (turned out j r).basic = if r.basic = out.basic then j else r.basic := by
  unfold turned
  split <;> simp

theorem turned_basic (h : r.basic = out.basic) : turned out j r = out.solveFor j := if_pos h

theorem turned_other (h : r.basic ≠ out.basic) :
    turned out j r = r.eliminate (out.solveFor j) j := if_neg h

end

/-- A row without the basic variables of other rows. -/
def reduced (rows : List Row) (r : Row) : Row := rows.foldl (fun r s => r.eliminate s s.basic) r

section

variable {rows : List Row} {r : Row}

theorem length_reduced (h : ∀ s ∈ rows, s.coeffs.length = r.coeffs.length) :
    (reduced rows r).coeffs.length = r.coeffs.length := by
  induction rows generalizing r with
  | nil => rfl
  | cons s rest ih =>
      have hlen := Row.length_eliminate (j := s.basic) (h s List.mem_cons_self).symm
      rw [reduced, List.foldl_cons, ← reduced,
        ih fun q hq => (h q (List.mem_cons_of_mem _ hq)).trans hlen.symm, hlen]

/-- A variable that is in no row is left as it is. -/
theorem at_reduced_of_zero (h : ∀ s ∈ rows, s.coeffs.length = r.coeffs.length) {i : Nat}
    (hzero : ∀ s ∈ rows, s.at i = 0) : (reduced rows r).at i = r.at i := by
  induction rows generalizing r with
  | nil => rfl
  | cons s rest ih =>
      have hlen := (h s List.mem_cons_self).symm
      rw [reduced, List.foldl_cons, ← reduced, ih
        (fun q hq => (h q (List.mem_cons_of_mem _ hq)).trans (Row.length_eliminate hlen).symm)
        (fun q hq => hzero q (List.mem_cons_of_mem _ hq)),
        Row.at_eliminate hlen, hzero s List.mem_cons_self]
      ring

@[simp]
theorem basic_reduced (rows : List Row) (r : Row) : (reduced rows r).basic = r.basic := by
  induction rows generalizing r with
  | nil => rfl
  | cons s rest ih => rw [reduced, List.foldl_cons, ← reduced, ih, Row.basic_eliminate]

/-- A basic variable that is gone does not come back. -/
theorem at_reduced_stays (h : ∀ s ∈ rows, s.coeffs.length = r.coeffs.length) {i : Nat}
    (hunit : ∀ s ∈ rows, s.at i = if s.basic = i then 1 else 0) (hzero : r.at i = 0) :
    (reduced rows r).at i = 0 := by
  induction rows generalizing r with
  | nil => exact hzero
  | cons s rest ih =>
      have hlen := (h s List.mem_cons_self).symm
      rw [reduced, List.foldl_cons, ← reduced]
      refine ih
        (fun q hq => (h q (List.mem_cons_of_mem _ hq)).trans (Row.length_eliminate hlen).symm)
        (fun q hq => hunit q (List.mem_cons_of_mem _ hq)) ?_
      rw [Row.at_eliminate hlen, hunit s List.mem_cons_self, hzero]
      split
      · next hbasic => rw [hbasic, hzero]; ring
      · ring

/-- All basic variables are gone in the end. -/
theorem at_reduced_basic (h : ∀ s ∈ rows, s.coeffs.length = r.coeffs.length)
    (hunit : ∀ s ∈ rows, ∀ q ∈ rows, s.at q.basic = if s.basic = q.basic then 1 else 0) :
    ∀ s ∈ rows, (reduced rows r).at s.basic = 0 := by
  induction rows generalizing r with
  | nil => nofun
  | cons s rest ih =>
      have hlen := (h s List.mem_cons_self).symm
      have hrest : ∀ q ∈ rest, q.coeffs.length = (r.eliminate s s.basic).coeffs.length :=
        fun q hq => (h q (List.mem_cons_of_mem _ hq)).trans (Row.length_eliminate hlen).symm
      rw [reduced, List.foldl_cons, ← reduced]
      intro q hq
      obtain rfl | hq := List.mem_cons.mp hq
      · refine at_reduced_stays hrest
          (fun s hs => hunit s (List.mem_cons_of_mem _ hs) q List.mem_cons_self) ?_
        rw [Row.at_eliminate hlen, hunit q List.mem_cons_self q List.mem_cons_self, if_pos rfl]
        ring
      · exact ih hrest
          (fun s hs q hq => hunit s (List.mem_cons_of_mem _ hs) q (List.mem_cons_of_mem _ hq)) q hq

end

namespace Problem

-- ==================================================== solved forms

/-- Some values of the variables are a solution of all rows. -/
def Holds (p : Problem) (x : Nat → Rat) : Prop := ∀ r ∈ p.rows, r.sum p.costs.length x = r.value

/-- A problem in solved form. -/
structure Solved (p : Problem) : Prop where
  size : ∀ r ∈ p.rows, r.coeffs.length = p.costs.length
  bound : ∀ r ∈ p.rows, r.basic < p.costs.length
  unit : ∀ r ∈ p.rows, ∀ s ∈ p.rows, r.at s.basic = if r.basic = s.basic then 1 else 0
  same : ∀ r ∈ p.rows, ∀ s ∈ p.rows, r.basic = s.basic → r = s
  nonneg : ∀ r ∈ p.rows, 0 ≤ r.value
  free : ∀ r ∈ p.rows, p.costs.getD r.basic 0 = 0

section

variable {p : Problem}

/-- The value of a variable is that of its row, or zero. -/
theorem value_cases (p : Problem) (j : Nat) :
    (∃ r ∈ p.rows, r.basic = j ∧ p.value j = r.value) ∨ p.value j = 0 := by
  cases hfind : p.rows.find? fun r => r.basic = j with
  | none => exact .inr (by rw [value, hfind]; rfl)
  | some r =>
      have hbasic : r.basic = j := by simpa using List.find?_some hfind
      exact .inl ⟨r, List.mem_of_find?_eq_some hfind, hbasic, by rw [value, hfind]; rfl⟩

theorem Solved.value_nonneg (h : p.Solved) (j : Nat) : 0 ≤ p.value j := by
  obtain ⟨r, hr, -, hvalue⟩ | hzero := p.value_cases j
  · exact hvalue ▸ h.nonneg r hr
  · exact hzero.ge

theorem Solved.value_basic (h : p.Solved) {r : Row} (hr : r ∈ p.rows) :
    p.value r.basic = r.value := by
  cases hfind : p.rows.find? fun s => s.basic = r.basic with
  | none => exact absurd (List.find?_eq_none.mp hfind r hr) (by simp)
  | some s =>
      have hbasic : s.basic = r.basic := by simpa using List.find?_some hfind
      have hsame := h.same s (List.mem_of_find?_eq_some hfind) r hr hbasic
      rw [value, hfind, hsame]
      rfl

/-- The values of a solved form are a solution. -/
theorem Solved.holds (h : p.Solved) : p.Holds p.value := by
  intro r hr
  have hothers : ∀ j ∈ Finset.range p.costs.length, j ≠ r.basic → r.at j * p.value j = 0 := by
    intro j _ hne
    obtain ⟨s, hs, rfl, -⟩ | hzero := p.value_cases j
    · rw [h.unit r hr s hs, if_neg (Ne.symm hne), zero_mul]
    · rw [hzero, mul_zero]
  rw [Row.sum, Finset.sum_eq_single r.basic hothers
    fun hout => absurd (Finset.mem_range.mpr (h.bound r hr)) hout]
  rw [h.unit r hr r hr, if_pos rfl, one_mul, h.value_basic hr]

-- ==================================================== one step

/-- The problem after a row gave way to a variable. -/
def pivoted (p : Problem) (out : Row) (j : Nat) : Problem :=
  { rows := p.rows.map (turned out j)
    costs := lessTimes (p.costs.getD j 0) p.costs (out.solveFor j).coeffs }

/-- A step lets a row of least ratio give way to a variable of negative cost. -/
theorem step_cases {p' : Problem} (hstep : step? p = some p') :
    ∃ j out, j < p.costs.length ∧ p.costs.getD j 0 < 0 ∧ Least j p.rows (some out) ∧
      p' = p.pivoted out j := by
  unfold step? at hstep
  obtain ⟨j, hj, hrest⟩ := Option.bind_eq_some_iff.mp hstep
  obtain ⟨out, hout, hrest⟩ := Option.bind_eq_some_iff.mp hrest
  obtain ⟨hlt, hneg⟩ := entering_spec j hj
  have hleast := leaving_least p.rows j
  rw [hout] at hleast
  exact ⟨j, out, hlt, hneg, hleast, (Option.some.inj hrest).symm⟩

section

variable {out : Row} {j : Nat}

/-- What a solved form is when a row of it gives way to a variable that is not basic. -/
theorem Solved.pivoted (h : p.Solved) (hlt : j < p.costs.length) (hfree : ∀ r ∈ p.rows, r.basic ≠ j)
    (hleast : Least j p.rows (some out)) : (p.pivoted out j).Solved := by
  obtain ⟨hout, hpos, hratio⟩ := hleast
  have hlen : ∀ r ∈ p.rows, r.coeffs.length = (out.solveFor j).coeffs.length := fun r hr => by
    rw [Row.length_solveFor, h.size r hr, h.size out hout]
  have hcosts : p.costs.length = (out.solveFor j).coeffs.length := by
    rw [Row.length_solveFor, h.size out hout]
  -- the pivot has the new variable to itself, and none of the other basic ones
  have hpivot : (out.solveFor j).at j = 1 := by rw [Row.at_solveFor, div_self hpos.ne']
  have hother : ∀ s ∈ p.rows, s.basic ≠ out.basic → (out.solveFor j).at s.basic = 0 :=
    fun s hs hne => by
      rw [Row.at_solveFor, h.unit out hout s hs, if_neg (Ne.symm hne), zero_div]
  constructor
  case size =>
    intro q hq
    obtain ⟨r, hr, rfl⟩ := List.mem_map.mp hq
    rw [Problem.pivoted, length_lessTimes _ hcosts, turned]
    split
    · rw [Row.length_solveFor, h.size out hout]
    · rw [Row.length_eliminate (hlen r hr), h.size r hr]
  case bound =>
    intro q hq
    obtain ⟨r, hr, rfl⟩ := List.mem_map.mp hq
    rw [Problem.pivoted, length_lessTimes _ hcosts, basic_turned]
    split
    · exact hlt
    · exact h.bound r hr
  case unit =>
    intro q hq q' hq'
    obtain ⟨r, hr, rfl⟩ := List.mem_map.mp hq
    obtain ⟨s, hs, rfl⟩ := List.mem_map.mp hq'
    rw [basic_turned (r := s), basic_turned (r := r)]
    by_cases hsout : s.basic = out.basic
    · rw [if_pos hsout]
      by_cases hrout : r.basic = out.basic
      · rw [turned_basic hrout, hpivot, if_pos hrout, if_pos rfl]
      · rw [turned_other hrout, Row.at_eliminate (hlen r hr), hpivot, if_neg hrout,
          if_neg (hfree r hr)]
        ring
    · rw [if_neg hsout]
      by_cases hrout : r.basic = out.basic
      · rw [turned_basic hrout, hother s hs hsout, if_pos hrout, if_neg (hfree s hs).symm]
      · rw [turned_other hrout, Row.at_eliminate (hlen r hr), hother s hs hsout, if_neg hrout,
          h.unit r hr s hs]
        ring
  case same =>
    intro q hq q' hq' heq
    obtain ⟨r, hr, rfl⟩ := List.mem_map.mp hq
    obtain ⟨s, hs, rfl⟩ := List.mem_map.mp hq'
    rw [basic_turned, basic_turned] at heq
    by_cases hrout : r.basic = out.basic <;> by_cases hsout : s.basic = out.basic
    · rw [turned_basic hrout, turned_basic hsout]
    · rw [if_pos hrout, if_neg hsout] at heq
      exact absurd heq.symm (hfree s hs)
    · rw [if_neg hrout, if_pos hsout] at heq
      exact absurd heq (hfree r hr)
    · rw [if_neg hrout, if_neg hsout] at heq
      rw [h.same r hr s hs heq]
  case nonneg =>
    intro q hq
    obtain ⟨r, hr, rfl⟩ := List.mem_map.mp hq
    have hvalue : 0 ≤ out.value / out.at j := div_nonneg (h.nonneg out hout) hpos.le
    by_cases hrout : r.basic = out.basic
    · rw [turned_basic hrout, Row.value_solveFor]
      exact hvalue
    · rw [turned_other hrout, Row.value_eliminate, Row.value_solveFor, sub_nonneg]
      obtain hneg | hrpos := le_or_gt (r.at j) 0
      · exact (mul_nonpos_of_nonpos_of_nonneg hneg hvalue).trans (h.nonneg r hr)
      · rw [mul_comm]
        exact (le_div_iff₀ hrpos).mp (hratio r hr hrpos)
  case free =>
    intro q hq
    obtain ⟨r, hr, rfl⟩ := List.mem_map.mp hq
    rw [Problem.pivoted, getD_lessTimes _ hcosts, basic_turned]
    by_cases hrout : r.basic = out.basic
    · rw [if_pos hrout, ← Row.at, hpivot]
      ring
    · rw [if_neg hrout, ← Row.at, hother r hr hrout, h.free r hr]
      ring

/-- No solution is lost to sight: what solves the turned rows solved the rows. -/
theorem Solved.holds_of_pivoted (h : p.Solved) (hout : out ∈ p.rows) (hpos : 0 < out.at j)
    (hlen : (p.pivoted out j).costs.length = p.costs.length) {x : Nat → Rat}
    (hx : (p.pivoted out j).Holds x) : p.Holds x := by
  have hturned : ∀ r ∈ p.rows, (turned out j r).sum p.costs.length x = (turned out j r).value :=
    fun r hr => hlen ▸ hx _ (List.mem_map_of_mem hr)
  have hpivot : (out.solveFor j).sum p.costs.length x = (out.solveFor j).value := by
    rw [← turned_basic (r := out) (j := j) rfl]
    exact hturned out hout
  have hsolved : out.sum p.costs.length x = out.value := by
    rw [Row.sum_solveFor, Row.value_solveFor] at hpivot
    exact (div_left_inj' hpos.ne').mp hpivot
  intro r hr
  by_cases hrout : r.basic = out.basic
  · rw [h.same r hr out hout hrout]
    exact hsolved
  · have hrow := hturned r hr
    rw [turned_other hrout, Row.sum_eliminate (by rw [Row.length_solveFor, h.size r hr,
      h.size out hout]), Row.value_eliminate, hpivot] at hrow
    exact sub_left_inj.mp hrow

end

/-- One problem after another: still in solved form, and with no solutions that the first does not
have. -/
structure Follows (p p' : Problem) : Prop where
  solved : p'.Solved
  size : p.costs.length ≤ p'.costs.length
  holds : ∀ x, p'.Holds x → p.Holds x

theorem Follows.trans {p p' p'' : Problem} (h : p.Follows p') (h' : p'.Follows p'') :
    p.Follows p'' :=
  ⟨h'.solved, h.size.trans h'.size, fun x hx => h.holds x (h'.holds x hx)⟩

theorem Solved.follows (h : p.Solved) : p.Follows p := ⟨h, le_rfl, fun _ hx => hx⟩

/-- A step keeps the solved form. -/
theorem Solved.step (h : p.Solved) {p' : Problem} (hstep : step? p = some p') :
    p.Follows p' := by
  obtain ⟨j, out, hlt, hneg, hleast, rfl⟩ := step_cases hstep
  have hfree : ∀ r ∈ p.rows, r.basic ≠ j := fun r hr heq => by
    rw [← heq, h.free r hr] at hneg
    exact lt_irrefl 0 hneg
  have hlen : (p.pivoted out j).costs.length = p.costs.length :=
    length_lessTimes _ (by rw [Row.length_solveFor, h.size out hleast.1])
  exact ⟨h.pivoted hlt hfree hleast, hlen.ge,
    fun x hx => h.holds_of_pivoted hleast.1 hleast.2.1 hlen hx⟩

/-- So do all steps. -/
theorem Solved.solve (h : p.Solved) (steps : Nat) : p.Follows (solve steps p) := by
  induction steps generalizing p with
  | zero => exact h.follows
  | succ n ih =>
      rw [Simplex.solve]
      split
      · exact h.follows
      · next p' hstep =>
        have hnext := h.step hstep
        exact hnext.trans (ih hnext.solved)

-- ==================================================== one wish more

/-- What a row and costs must be to extend a solved form by two variables, one of them basic. -/
structure Extends (p : Problem) (row : Row) (costs : List Rat) : Prop where
  size : row.coeffs.length = p.costs.length + 2
  old : ∀ r ∈ p.rows, row.at r.basic = 0
  new : p.costs.length ≤ row.basic ∧ row.basic < p.costs.length + 2
  unit : row.at row.basic = 1
  nonneg : 0 ≤ row.value
  length : costs.length = p.costs.length + 2
  free : ∀ r ∈ p.rows, costs.getD r.basic 0 = 0
  own : costs.getD row.basic 0 = 0

/-- A solved form with a row more. -/
theorem Solved.extended (h : p.Solved) {row : Row} {costs : List Rat} (hx : p.Extends row costs) :
    p.Follows { rows := p.rows.map Row.widened ++ [row], costs } := by
  have hcases {q : Row} (hq : q ∈ p.rows.map Row.widened ++ [row]) :
      (∃ r ∈ p.rows, q = r.widened) ∨ q = row := by
    simpa [eq_comm] using hq
  have hbasic : ∀ r ∈ p.rows, r.basic ≠ row.basic := fun r hr =>
    (lt_of_lt_of_le (h.bound r hr) hx.new.1).ne
  refine ⟨⟨?size, ?bound, ?unit, ?same, ?nonneg, ?free⟩, by simp [hx.length], ?holds⟩
  case size =>
    intro q hq
    obtain ⟨r, hr, rfl⟩ | rfl := hcases hq
    · simp [Row.widened, h.size r hr, hx.length]
    · rw [hx.size, hx.length]
  case bound =>
    intro q hq
    rw [hx.length]
    obtain ⟨r, hr, rfl⟩ | rfl := hcases hq
    · exact (h.bound r hr).trans (by omega)
    · exact hx.new.2
  case unit =>
    intro q hq q' hq'
    obtain ⟨r, hr, rfl⟩ | rfl := hcases hq <;> obtain ⟨s, hs, rfl⟩ | rfl := hcases hq'
    · rw [Row.at_widened]
      exact h.unit r hr s hs
    · rw [Row.at_widened, Row.at_of_length_le ((h.size r hr).le.trans hx.new.1)]
      exact (if_neg (hbasic r hr)).symm
    · exact (hx.old s hs).trans (if_neg (hbasic s hs).symm).symm
    · rw [hx.unit, if_pos rfl]
  case same =>
    intro q hq q' hq' heq
    obtain ⟨r, hr, rfl⟩ | rfl := hcases hq <;> obtain ⟨s, hs, rfl⟩ | rfl := hcases hq'
    · rw [h.same r hr s hs heq]
    · exact absurd heq (hbasic r hr)
    · exact absurd heq.symm (hbasic s hs)
    · rfl
  case nonneg =>
    intro q hq
    obtain ⟨r, hr, rfl⟩ | rfl := hcases hq
    · exact h.nonneg r hr
    · exact hx.nonneg
  case free =>
    intro q hq
    obtain ⟨r, hr, rfl⟩ | rfl := hcases hq
    · exact hx.free r hr
    · exact hx.own
  case holds =>
    intro x hall r hr
    rw [← Row.sum_widened (h.size r hr), ← hx.length]
    exact hall _ (List.mem_append_left _ (List.mem_map_of_mem hr))

/-- The row of a wish, solved for what is missing to its target. -/
def wishRow (w : Wish) (n : Nat) : Row :=
  { basic := n + 1
    coeffs := w.coeffs ++ List.replicate (n - w.coeffs.length) 0 ++ [-1, 1]
    value := w.target }

theorem length_wishRow {w : Wish} {n : Nat} (hw : w.coeffs.length ≤ n) :
    (wishRow w n).coeffs.length = n + 2 := by
  simp only [wishRow, List.length_append, List.length_replicate, List.length_cons, List.length_nil]
  omega

/-- The row in which a wish is added, and what the basic variable of it costs. -/
def addedRow (p : Problem) (w : Wish) : Row × Rat :=
  let solved := reduced (p.rows.map Row.widened) (wishRow w p.costs.length)
  if 0 < solved.value then (solved, w.underCost)
  else
    ({ basic := p.costs.length, coeffs := solved.coeffs.map (- ·), value := -solved.value },
      w.overCost)

theorem add_eq (p : Problem) (w : Wish) :
    p.add w = Simplex.solve stepLimit
      { rows := p.rows.map Row.widened ++ [(p.addedRow w).1]
        costs := lessTimes (p.addedRow w).2 (p.costs ++ [w.overCost, w.underCost])
          (p.addedRow w).1.coeffs } := rfl

/-- The last two variables of a reduced wish stand for what is above and what is below its target,
and no other basic variable is left in it. -/
theorem Solved.reduced_wish (h : p.Solved) {w : Wish} (hw : w.coeffs.length ≤ p.costs.length) :
    let solved := reduced (p.rows.map Row.widened) (wishRow w p.costs.length)
    solved.coeffs.length = p.costs.length + 2 ∧ solved.basic = p.costs.length + 1 ∧
      (∀ r ∈ p.rows, solved.at r.basic = 0) ∧ solved.at p.costs.length = -1 ∧
      solved.at (p.costs.length + 1) = 1 := by
  intro solved
  have hlen : ∀ s ∈ p.rows.map Row.widened,
      s.coeffs.length = (wishRow w p.costs.length).coeffs.length := by
    intro s hs
    obtain ⟨r, hr, rfl⟩ := List.mem_map.mp hs
    simp [length_wishRow hw, Row.widened, h.size r hr]
  -- no row knows the new variables
  have hfresh {i : Nat} (hi : p.costs.length ≤ i) : ∀ s ∈ p.rows.map Row.widened, s.at i = 0 := by
    intro s hs
    obtain ⟨r, hr, rfl⟩ := List.mem_map.mp hs
    rw [Row.at_widened, Row.at_of_length_le ((h.size r hr).le.trans hi)]
  have hunit : ∀ s ∈ p.rows.map Row.widened, ∀ q ∈ p.rows.map Row.widened,
      s.at q.basic = if s.basic = q.basic then 1 else 0 := by
    intro s hs q hq
    obtain ⟨r, hr, rfl⟩ := List.mem_map.mp hs
    obtain ⟨r', hr', rfl⟩ := List.mem_map.mp hq
    rw [Row.at_widened]
    exact h.unit r hr r' hr'
  have hfront : (w.coeffs ++ List.replicate (p.costs.length - w.coeffs.length) 0).length =
      p.costs.length := by
    rw [List.length_append, List.length_replicate]
    omega
  refine ⟨?_, basic_reduced _ _, fun r hr => ?_, ?_, ?_⟩
  · rw [length_reduced hlen, length_wishRow hw]
  · exact at_reduced_basic hlen hunit r.widened (List.mem_map_of_mem hr)
  · rw [at_reduced_of_zero hlen (hfresh le_rfl), Row.at, wishRow,
      List.getD_append_right _ _ _ _ hfront.le, hfront, Nat.sub_self]
    rfl
  · rw [at_reduced_of_zero hlen (hfresh (Nat.le_succ _)), Row.at, wishRow,
      List.getD_append_right _ _ _ _ (hfront.le.trans (Nat.le_succ _)), hfront, Nat.succ_sub le_rfl,
      Nat.sub_self]
    rfl

/-- The row that is added extends the solved form, whichever of its two variables is basic. -/
theorem Solved.extends (h : p.Solved) {w : Wish} (hw : w.coeffs.length ≤ p.costs.length) :
    p.Extends (p.addedRow w).1 (lessTimes (p.addedRow w).2
      (p.costs ++ [w.overCost, w.underCost]) (p.addedRow w).1.coeffs) := by
  obtain ⟨hlen, hbasic, hold, hover, hunder⟩ := h.reduced_wish hw
  -- both rows have the length of the costs, nothing of the old basic variables, and cost nothing
  have extends_of {row : Row} {cost : Rat} (hsize : row.coeffs.length = p.costs.length + 2)
      (hrow : ∀ r ∈ p.rows, row.at r.basic = 0)
      (hnew : p.costs.length ≤ row.basic ∧ row.basic < p.costs.length + 2)
      (hunit : row.at row.basic = 1) (hvalue : 0 ≤ row.value)
      (hcost : (p.costs ++ [w.overCost, w.underCost]).getD row.basic 0 = cost) :
      p.Extends row (lessTimes cost (p.costs ++ [w.overCost, w.underCost]) row.coeffs) := by
    have hcosts : (p.costs ++ [w.overCost, w.underCost]).length = row.coeffs.length := by
      simp [hsize]
    refine ⟨hsize, hrow, hnew, hunit, hvalue, ?_, fun r hr => ?_, ?_⟩
    · rw [length_lessTimes _ hcosts, hcosts, hsize]
    · rw [getD_lessTimes _ hcosts, ← Row.at, hrow r hr,
        List.getD_append _ _ _ _ (h.bound r hr), h.free r hr]
      ring
    · rw [getD_lessTimes _ hcosts, ← Row.at, hunit, hcost]
      ring
  unfold addedRow
  dsimp only
  split
  · next hpos =>
      refine extends_of hlen hold (by rw [hbasic]; omega) (by rw [hbasic, hunder]) hpos.le ?_
      rw [hbasic, List.getD_append_right _ _ _ _ (Nat.le_succ _), Nat.succ_sub le_rfl, Nat.sub_self]
      rfl
  · next hneg =>
      have hflip (row : Row) (i : Nat) : (row.coeffs.map (- ·)).getD i 0 = - row.at i := by
        rw [Row.at, ← List.getD_map row.coeffs 0 fun a => -a, neg_zero]
      refine extends_of (by simpa using hlen) (fun r hr => ?_) (by dsimp only; omega) ?_ ?_ ?_
      · rw [Row.at, hflip, hold r hr, neg_zero]
      · rw [Row.at, hflip, hover, neg_neg]
      · exact neg_nonneg.mpr (not_lt.mp hneg)
      · rw [List.getD_append_right _ _ _ _ le_rfl, Nat.sub_self]
        rfl

/-- A wish that is added keeps the solved form. -/
theorem Solved.add (h : p.Solved) {w : Wish} (hw : w.coeffs.length ≤ p.costs.length) :
    p.Follows (p.add w) := by
  rw [add_eq]
  have hextended := h.extended (h.extends hw)
  exact hextended.trans (hextended.solved.solve _)

/-- So do all wishes. -/
theorem Solved.addAll (h : p.Solved) (wishes : List Wish)
    (hw : ∀ w ∈ wishes, w.coeffs.length ≤ p.costs.length) :
    p.Follows (wishes.foldl Problem.add p) := by
  induction wishes generalizing p with
  | nil => exact h.follows
  | cons w rest ih =>
      have hnext := h.add (hw w List.mem_cons_self)
      exact hnext.trans (ih hnext.solved fun v hv =>
        (hw v (List.mem_cons_of_mem _ hv)).trans hnext.size)

end

end Problem

end FunctionConsole.Simplex
