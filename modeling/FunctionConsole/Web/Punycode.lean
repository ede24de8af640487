/-!
# Labels in ASCII

A label of a domain name with other characters is written in ASCII: its ASCII characters first,
then where each of the others goes, as numbers of varying length in base 36 (RFC 3492).
-/

namespace FunctionConsole.Web.Punycode

/-- The digit for a value below 36. -/
def digit (n : Nat) : Char := Char.ofNat (if n < 26 then 'a'.toNat + n else '0'.toNat + n - 26)

/-- The value of a digit. -/
def digitValue? (c : Char) : Option Nat :=
  if 'a' ≤ c ∧ c ≤ 'z' then some (c.toNat - 'a'.toNat)
  else if '0' ≤ c ∧ c ≤ '9' then some (c.toNat - '0'.toNat + 26)
  else none

/-- The threshold of the digit at a position, which depends on the bias. -/
def threshold (k bias : Nat) : Nat := if k ≤ bias then 1 else if bias + 26 ≤ k then 26 else k - bias

/-- The bias after a number, found by dividing it down to the usual size. -/
def adaptWithin : (fuel : Nat) → (k delta : Nat) → Nat
  | 0, k, delta => k + 36 * delta / (delta + 38)
  | fuel + 1, k, delta =>
    if delta > 455 then adaptWithin fuel (k + 36) (delta / 35) else k + 36 * delta / (delta + 38)

/-- The bias after a number, given how many characters are placed and whether it is the first. -/
def adapt (delta count : Nat) (first : Bool) : Nat :=
  let delta := if first then delta / 700 else delta / 2
  adaptWithin 32 0 (delta + delta / count)

/-- A number of varying length. -/
def numberWithin : (fuel : Nat) → (k bias n : Nat) → List Char
  | 0, _, _, _ => []
  | fuel + 1, k, bias, n =>
    let t := threshold k bias
    if n < t then [digit n]
    else digit (t + (n - t) % (36 - t)) :: numberWithin fuel (k + 36) bias ((n - t) / (36 - t))

/-- How far the writing of a label is: the numbers so far, and the state for the next one. -/
structure State where
  written : List Char := []
  delta : Nat := 0
  bias : Nat := 72
  placed : Nat

/-- Writes where the characters with code point `m` go, after those below `n` are placed. -/
def place (basic : Nat) (label : List Nat) (s : State) (n m : Nat) : State :=
  let s := { s with delta := s.delta + (m - n) * (s.placed + 1) }
  let s := label.foldl (fun (s : State) c =>
    if c < m then { s with delta := s.delta + 1 }
    else if c = m then
      { written := s.written ++ numberWithin 32 36 s.bias s.delta
        delta := 0
        bias := adapt s.delta (s.placed + 1) (s.placed = basic)
        placed := s.placed + 1 }
    else s) s
  { s with delta := s.delta + 1 }

/-- Places the characters of every code point of an ascending list. -/
def placeAll (basic : Nat) (label : List Nat) : State → Nat → List Nat → State
  | s, _, [] => s
  | s, n, m :: ms => placeAll basic label (place basic label s n m) (m + 1) ms

/-- The ASCII form of a label. -/
def encode (label : List Char) : List Char :=
  let points := label.map Char.toNat
  let basic := label.filter fun c => c.toNat < 128
  let others := (points.filter (128 ≤ ·)).mergeSort.eraseDups
  let s := placeAll basic.length points { placed := basic.length } 128 others
  basic ++ (if basic.isEmpty then [] else ['-']) ++ s.written

/-- How far the reading of a label is; `value` and `weight` belong to the number being read. -/
structure Reading where
  label : List Char
  n : Nat := 128
  i : Nat := 0
  bias : Nat := 72
  value : Nat := 0
  weight : Nat := 1
  k : Nat := 36

/-- Reads one more digit. -/
def readDigit (s : Reading) (c : Char) : Option Reading := do
  let d ← digitValue? c
  let t := threshold s.k s.bias
  let value := s.value + d * s.weight
  if UInt32.size ≤ value then none
  else if d < t then
    let count := s.label.length + 1
    let i := s.i + value
    let n := s.n + i / count
    if n.isValidChar then
      some
        { label := s.label.take (i % count) ++ [Char.ofNat n] ++ s.label.drop (i % count)
          n := n
          i := i % count + 1
          bias := adapt value count (s.i = 0) }
    else none
  else some { s with value := value, weight := s.weight * (36 - t), k := s.k + 36 }

/-- The label that an ASCII form stands for. -/
def decode? (cs : List Char) : Option (List Char) :=
  let tail := (cs.reverse.takeWhile (· ≠ '-')).reverse
  let basic := cs.take (cs.length - tail.length - 1)
  ((tail.foldlM readDigit { label := basic } : Option Reading)).bind fun s =>
    if s.k = 36 then some s.label else none

end FunctionConsole.Web.Punycode
