/-!
# Least cost under linear conditions

The simplex method in exact arithmetic. A problem is given in solved form: every row says what its
basic variable is when all others are zero, and no value is negative. A step brings a variable of
negative cost into the basis; of several the first is taken, and of several rows that could give way
the one with the first variable, so that no basis comes twice.

Wishes are added one at a time, and the cost is made least after each. A wish that cannot lower the
cost therefore changes nothing, so that of several solutions of least cost the one is kept that the
earlier wishes led to.
-/

namespace FunctionConsole.Simplex

/-- A condition solved for its basic variable: the coefficients of all variables, and the value. -/
structure Row where
  basic : Nat
  coeffs : List Rat
  value : Rat
  deriving Repr, Inhabited

/-- A problem in solved form: its rows, and what one unit of each variable costs. -/
structure Problem where
  rows : List Row
  costs : List Rat
  deriving Repr, Inhabited

/-- The coefficient of a variable. -/
def Row.at (r : Row) (j : Nat) : Rat := r.coeffs.getD j 0

/-- One list less a multiple of another. -/
def lessTimes (k : Rat) (a b : List Rat) : List Rat :=
  if k = 0 then a else List.zipWith (fun x y => if y = 0 then x else x - k * y) a b

/-- The row solved for another variable. -/
def Row.solveFor (r : Row) (j : Nat) : Row :=
  let p := r.at j
  if p = 1 then { r with basic := j }
  else { basic := j, coeffs := r.coeffs.map (· / p), value := r.value / p }

/-- The row with a variable replaced by what another row says of it. -/
def Row.eliminate (r by_ : Row) (j : Nat) : Row :=
  let k := r.at j
  if k = 0 then r
  else { r with coeffs := lessTimes k r.coeffs by_.coeffs, value := r.value - k * by_.value }

/-- The first variable of negative cost. -/
def entering? (costs : List Rat) : Option Nat := costs.findIdx? (· < 0)

/-- The row that limits a variable most; of several, the one with the first basic variable. -/
def leaving? (rows : List Row) (j : Nat) : Option Row :=
  rows.foldl (fun best r =>
    if r.at j ≤ 0 then best
    else
      match best with
      | none => some r
      | some s =>
        let a := r.value * s.at j
        let b := s.value * r.at j
        if a < b ∨ (a = b ∧ r.basic < s.basic) then some r else some s) none

/-- One step, unless the cost is least already. -/
def step? (p : Problem) : Option Problem := do
  let j ← entering? p.costs
  let out ← leaving? p.rows j
  let pivot := out.solveFor j
  some
    { rows := p.rows.map fun r => if r.basic = out.basic then pivot else r.eliminate pivot j
      costs := lessTimes (p.costs.getD j 0) p.costs pivot.coeffs }

/-- Steps until the cost is least, at most so many of them. -/
def solve : (steps : Nat) → Problem → Problem
  | 0, p => p
  | n + 1, p =>
    match step? p with
    | none => p
    | some p => solve n p

/-- The value of a variable in a solved form. -/
def Problem.value (p : Problem) (j : Nat) : Rat :=
  ((p.rows.find? fun r => r.basic = j).map Row.value).getD 0

/-- More steps than a problem takes. -/
def stepLimit : Nat := 10000

/-- A sum of variables that should be a target, with the cost of a unit above and of one below it. -/
structure Wish where
  coeffs : List Rat
  target : Rat
  overCost : Rat
  underCost : Rat
  deriving Repr, Inhabited

/-- Adds a wish, with two variables for what the sum is above and below its target, and makes the
cost least again. -/
def Problem.add (p : Problem) (w : Wish) : Problem :=
  let columns := p.costs.length
  let widened : List Row := p.rows.map fun r => { r with coeffs := r.coeffs ++ [0, 0] }
  let free : Row :=
    { basic := columns + 1
      coeffs := w.coeffs ++ List.replicate (columns - w.coeffs.length) 0 ++ [-1, 1]
      value := w.target }
  let solved := widened.foldl (fun r by_ => r.eliminate by_ by_.basic) free
  let (row, cost) :=
    if 0 < solved.value then (solved, w.underCost)
    else
      ({ basic := columns, coeffs := solved.coeffs.map (- ·), value := -solved.value }, w.overCost)
  solve stepLimit
    { rows := widened ++ [row]
      costs := lessTimes cost (p.costs ++ [w.overCost, w.underCost]) row.coeffs }

end FunctionConsole.Simplex
