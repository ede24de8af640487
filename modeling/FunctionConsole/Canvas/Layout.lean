import FunctionConsole.Canvas.Rect
import FunctionConsole.Canvas.Simplex

/-!
# Dividing an area

An area is divided into parts side by side with a fixed gap between them. Each part wants a size:
exactly so many cells, at least so many, a share of the whole, or as much as there is. Where not all
can have their way, the division is the one of least cost: every cell by which a part misses its
wish costs, most for a least size, then for an exact size, then for a share, and little for the
parts that only want to grow. Growing parts cost also what they differ from their proportions, and
every part costs a little what it differs from its neighbour.
-/

namespace FunctionConsole

/-- What a part of an area wants. -/
inductive Wish where
  /-- Exactly so many cells. -/
  | length (cells : Nat)
  /-- At least so many cells, and as many as there are. -/
  | min (cells : Nat)
  /-- So many hundredths of the area. -/
  | percentage (hundredths : Nat)
  /-- As many cells as there are, in proportion to other parts that grow. -/
  | fill (weight : Nat)
  deriving DecidableEq, Repr, Inhabited

namespace Layout

-- ==================================================== costs

/-- The cost of a cell that is missing to a least size. -/
def minCost : Rat := 100000000

/-- The cost of a cell more or less than an exact size. -/
def lengthCost : Rat := 10000000

/-- The cost of a cell more or less than a share. -/
def shareCost : Rat := 1000000

/-- The cost of a cell that a growing part does not get. -/
def growCost : Rat := 1000

/-- The cost of a cell that the room behind the parts does not get, and of a cell between growing
parts that keeps them from their proportions. -/
def roomCost : Rat := 100

/-- The cost of a cell between neighbours. -/
def neighbourCost : Rat := 1

/-- The growing parts with their weights; a weight of zero counts as next to none. -/
def weight? : Wish → Option Rat
  | .fill 0 => some (1 / 1000000)
  | .fill w => some w
  | .min _ => some 1
  | _ => none

/-- Coefficients that are zero but for some positions. -/
def coeffsAt (n : Nat) (l : List (Nat × Rat)) : List Rat :=
  (List.range n).map fun i => ((l.find? fun e => e.1 = i).map Prod.snd).getD 0

/-- A wish for a sum that costs the same above and below its target. -/
def near (coeffs : List Rat) (target cost : Rat) : Simplex.Wish := ⟨coeffs, target, cost, cost⟩

/-- What a part wants for itself; growing parts want the whole area. -/
def ownWishes (n total : Nat) (i : Nat) : Wish → List Simplex.Wish
  | .length l => [near (coeffsAt n [(i, 1)]) l lengthCost]
  | .min l =>
    [⟨coeffsAt n [(i, 1)], l, 0, minCost⟩, near (coeffsAt n [(i, 1)]) total growCost]
  | .percentage p => [near (coeffsAt n [(i, 1)]) ((total * p : Rat) / 100) shareCost]
  | .fill _ => [near (coeffsAt n [(i, 1)]) total growCost]

/-- What pairs of growing parts want for their proportions. -/
def pairWishes (n : Nat) : List (Nat × Rat) → List Simplex.Wish
  | [] => []
  | (i, v) :: rest =>
    rest.map (fun (j, w) => near (coeffsAt n [(i, w), (j, -v)]) 0 roomCost) ++ pairWishes n rest

/-- What neighbours want: to be equal. -/
def neighbourWishes (n : Nat) : List Simplex.Wish :=
  (List.range (n - 1)).map fun i => near (coeffsAt n [(i, 1), (i + 1, -1)]) 0 neighbourCost

/-- All wishes in the order in which they count: the room behind the parts, each part, the
proportions, the neighbours. -/
def allWishes (wishes : List Wish) (total : Nat) : List Simplex.Wish :=
  let n := wishes.length
  let indexed := wishes.zipIdx
  near (coeffsAt (n + 1) [(n, 1)]) total roomCost ::
    indexed.flatMap (fun (w, i) => ownWishes n total i w) ++
    pairWishes n (indexed.filterMap fun (w, i) => (weight? w).map fun v => (i, v)) ++
    neighbourWishes n

/-- The sizes of the parts before they are rounded to cells. The variables are the sizes and the
room behind them; at first all is room. -/
def sizes (wishes : List Wish) (gap total : Nat) : List Rat :=
  let n := wishes.length
  let start : Simplex.Problem :=
    { rows :=
        [{ basic := n, coeffs := List.replicate (n + 1) 1
           value := (total - gap * (n - 1) : Nat) }]
      costs := List.replicate (n + 1) 0 }
  let p := (allWishes wishes total).foldl Simplex.Problem.add start
  (List.range n).map p.value

/-- A place to the nearest hundredth and then to the nearest cell; a half goes up. -/
def roundPlace (r : Rat) : Nat :=
  let hundredths := (r * 100 + 1 / 2).floor
  ((hundredths + 50) / 100).toNat

/-- The first cell and the size of each part, given where the next part starts. -/
def places (gap total : Nat) : (start : Rat) → List Rat → List (Nat × Nat)
  | _, [] => []
  | start, s :: ss =>
    let first := roundPlace start
    (first, roundPlace (start + s) - first) ::
      places gap total (Min.min (start + s + gap) total) ss

/-- The first cell and the size of each part of an area of so many cells. -/
def divide (wishes : List Wish) (gap total : Nat) : List (Nat × Nat) :=
  places gap total 0 (sizes wishes gap total)

/-- Parts of an area one below the other. -/
def rows (area : Rect) (wishes : List Wish) : List Rect :=
  (divide wishes 0 area.height).map fun (y, h) => { area with y := area.y + y, height := h }

/-- Parts of an area side by side. -/
def columns (area : Rect) (wishes : List Wish) (gap : Nat) : List Rect :=
  (divide wishes gap area.width).map fun (x, w) => { area with x := area.x + x, width := w }

/-- A part of a division by its position; one that is not there is empty. -/
def part (rs : List Rect) (i : Nat) : Rect := rs.getD i ⟨0, 0, 0, 0⟩

end Layout

-- ==================================================== the areas of a screen

/-- The areas of a screen. -/
structure ScreenAreas where
  header : Rect
  body : Rect
  footer : Rect
  deriving DecidableEq, Repr

/-- One row for the header, one for the footer, and the body between them. -/
def ScreenAreas.of (area : Rect) : ScreenAreas :=
  let p := Layout.part (Layout.rows area [.length 1, .min 3, .length 1])
  ⟨p 0, p 1, p 2⟩

/-- The areas of the body of a function's screen. -/
structure FunctionAreas where
  title : Rect
  tabs : Rect
  content : Rect
  deriving DecidableEq, Repr

/-- Two rows for the title, a gap, one row for the tabs, and the content. -/
def FunctionAreas.of (body : Rect) : FunctionAreas :=
  let p := Layout.part (Layout.rows body [.length 2, .length 1, .length 1, .min 1])
  ⟨p 0, p 2, p 3⟩

end FunctionConsole
