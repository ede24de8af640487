/-!
# The shortest decimal that reads back

A finite binary floating-point value stands for the interval of reals that round to it. The
decimal chosen for it is the one with the fewest digits inside that interval and, of two with
equally many, the nearer one (the even one when both are equally near). The search works on exact
integers: for one digit, two digits, and so on, it tests the two neighbours of the value on that
decimal grid.
-/

namespace FunctionConsole.Decimal

/-- A finite non-negative binary value, `m * 2 ^ q`. -/
structure Binary where
  m : Nat
  q : Int
  /-- The gap to the value below is half the gap to the value above. -/
  narrowBelow : Bool

/-- The magnitude of a finite value, read off its bits. -/
def Binary.ofBits (b : UInt64) : Binary :=
  let e := ((b >>> 52) &&& 0x7FF).toNat
  let f := (b &&& 0xFFFFFFFFFFFFF).toNat
  if e == 0 then ⟨f, -1074, false⟩ else ⟨Nat.pow 2 52 + f, (e : Int) - 1075, f == 0 && e > 1⟩

/-- The decimal `digits * 10 ^ exp`. -/
structure Digits where
  digits : Nat
  exp : Int
  deriving Repr, DecidableEq

/-- Compares `a * 10 ^ i` with `n * 2 ^ j`, exactly. -/
def compareScaled (a : Nat) (i : Int) (n : Nat) (j : Int) : Ordering :=
  compare (a * Nat.pow 10 i.toNat * Nat.pow 2 (-j).toNat)
    (n * Nat.pow 2 j.toNat * Nat.pow 10 (-i).toNat)

/-- Whether a decimal lies among the reals that round to the value (to nearest, ties to even). -/
def Binary.readsBack (x : Binary) (d : Digits) : Bool :=
  let lo := if x.narrowBelow then 4 * x.m - 1 else 4 * x.m - 2
  let hi := 4 * x.m + 2
  let closed := x.m % 2 == 0
  let below := compareScaled d.digits d.exp lo (x.q - 2)
  let above := compareScaled d.digits d.exp hi (x.q - 2)
  (below == .gt || (closed && below == .eq)) && (above == .lt || (closed && above == .eq))

/-- The least `k` with the value below `10 ^ k`, searched upwards from a bound that is too low. -/
def Binary.scale (x : Binary) : Int :=
  let bits : Int := (x.m.log2 : Int) + x.q
  let start : Int := bits * 30102 / 100000 - 2
  go 8 start
where
  /-- Steps up while ten to the `k` does not exceed the value. -/
  go : Nat → Int → Int
    | 0, k => k
    | n + 1, k => if compareScaled 1 k x.m x.q == .gt then k else go n (k + 1)

/-- The value divided by `10 ^ e`, rounded down. -/
def Binary.floorAt (x : Binary) (e : Int) : Nat :=
  (x.m * Nat.pow 2 x.q.toNat * Nat.pow 10 (-e).toNat) /
    (Nat.pow 2 (-x.q).toNat * Nat.pow 10 e.toNat)

/-- Of the value's two neighbours on the grid `10 ^ e`, the one that reads back; the nearer if both. -/
def Binary.onGrid? (x : Binary) (e : Int) : Option Digits :=
  let down : Digits := ⟨x.floorAt e, e⟩
  let up : Digits := ⟨x.floorAt e + 1, e⟩
  let okDown := down.digits != 0 && x.readsBack down
  let okUp := x.readsBack up
  match okDown, okUp with
  | false, false => none
  | true, false => some down
  | false, true => some up
  | true, true =>
    match compareScaled (down.digits + up.digits) e (2 * x.m) x.q with
    | .gt => some down
    | .lt => some up
    | .eq => some (if down.digits % 2 == 0 then down else up)

/-- Moves trailing zeros of the digits into the exponent. -/
def Digits.strip (d : Digits) : Digits := go 400 d
where
  /-- Drops at most the given number of zeros. -/
  go : Nat → Digits → Digits
    | 0, d => d
    | n + 1, d => if d.digits != 0 && d.digits % 10 == 0 then go n ⟨d.digits / 10, d.exp + 1⟩ else d

/-- The shortest decimal that reads back to a value; `0` stands for zero. -/
def Binary.shortest (x : Binary) : Digits :=
  if x.m == 0 then ⟨0, 0⟩ else
    let k := x.scale
    match (List.range 17).findSome? fun (n : Nat) => x.onGrid? (k - 1 - (n : Int)) with
    | some d => d.strip
    | none => (Digits.mk (x.m * Nat.pow 2 x.q.toNat * Nat.pow 5 (-x.q).toNat) (min x.q 0)).strip

-- ================================================================ layout

/-- The text of a number in documents: the shortest digits that read back, positional with at
least one digit on each side of the point while the leading digit's exponent lies between -5 and
15, and otherwise with a signed exponent. -/
def Digits.render (d : Digits) : String :=
  let ds := (toString d.digits).toList
  let n := ds.length
  -- the exponent of the leading digit
  let e : Int := d.exp + (n : Int) - 1
  if d.digits == 0 then "0.0"
  else if -5 ≤ e && e ≤ 15 then
    if d.exp ≥ 0 then String.ofList (ds ++ List.replicate d.exp.toNat '0') ++ ".0"
    else if e ≥ 0 then
      String.ofList (ds.take (e.toNat + 1) ++ '.' :: ds.drop (e.toNat + 1))
    else "0." ++ String.ofList (List.replicate (-e - 1).toNat '0' ++ ds)
  else
    let mantissa := match ds with
      | [c] => [c]
      | c :: more => c :: '.' :: more
      | [] => []
    let sign := if e < 0 then "-" else "+"
    String.ofList mantissa ++ "e" ++ sign ++ toString e.natAbs

/-- The document text of a finite value, with its sign. -/
def renderBits (b : UInt64) : String :=
  let body := (Binary.ofBits b).shortest.render
  if b >>> 63 == 1 then "-" ++ body else body

end FunctionConsole.Decimal
