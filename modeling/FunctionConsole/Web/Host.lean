import FunctionConsole.Text.Blank
import FunctionConsole.Text.Lowercase
import FunctionConsole.Web.Percent
import FunctionConsole.Web.Punycode

/-!
# Hosts

The host of an address is a domain name, an address of four bytes, or one of eight groups in
brackets. Each is brought into one form: names in lower case and ASCII, four plain decimals, and
groups with their longest run of zeros left out.
-/

namespace FunctionConsole.Web.Host

/-- Texts with a separator between them. -/
def joinWith (separator : Char) (parts : List (List Char)) : List Char :=
  List.intercalate [separator] parts

/-- The number that digits of a base write. -/
def ofDigits? (base : Nat) (cs : List Char) : Option Nat :=
  cs.foldl (fun n? c => n?.bind fun n => (hexValue? c).bind fun d =>
    if d < base then some (n * base + d) else none) (some 0)

-- ==================================================== four bytes

/-- A number in an address of four bytes: after `0x` in base sixteen, after `0` in base eight. -/
def fourPart? (cs : List Char) : Option Nat :=
  match cs with
  | [] => none
  | '0' :: 'x' :: rest => ofDigits? 16 rest
  | '0' :: 'X' :: rest => ofDigits? 16 rest
  | '0' :: c :: rest => ofDigits? 8 (c :: rest)
  | cs => ofDigits? 10 cs

/-- The parts of a name between dots; a dot at the end does not count. -/
def dotParts (name : List Char) : List (List Char) :=
  let parts := Text.splitOnChar (· == '.') name
  if parts.getLast? = some [] then parts.dropLast else parts

/-- Whether a name ends in a number, so that it can only be an address of four bytes. -/
def endsInNumber (name : List Char) : Bool :=
  match (dotParts name).getLast? with
  | none => false
  | some [] => false
  | some part => part.all Char.isDigit || (fourPart? part).isSome

/-- An address of four bytes: the last number fills the bytes that the others leave. -/
def four? (name : List Char) : Option (List Char) := do
  let numbers ← (dotParts name).mapM fourPart?
  let last ← numbers.getLast?
  let leading := numbers.dropLast
  if 3 < leading.length ∨ Nat.pow 256 (4 - leading.length) ≤ last ∨ leading.any (255 < ·) then none
  else
    let n := leading.zipIdx.foldl (fun n (x, i) => n + x * Nat.pow 256 (3 - i)) last
    let byte (i : Nat) : Nat := n / Nat.pow 256 i % 256
    some (joinWith '.' ([byte 3, byte 2, byte 1, byte 0].map (Nat.toDigits 10)))

-- ==================================================== eight groups

/-- A group of one to four digits. -/
def group? (cs : List Char) : Option Nat :=
  if cs.isEmpty ∨ 4 < cs.length then none else ofDigits? 16 cs

/-- A byte in base ten without zeros in front. -/
def plainByte? (cs : List Char) : Option Nat :=
  if cs.isEmpty ∨ (cs.head? = some '0' ∧ 1 < cs.length) then none
  else (ofDigits? 10 cs).bind fun n => if n < 256 then some n else none

/-- The groups of a text between colons; the last one may be four bytes, which are two groups. -/
def groups? (bytesAllowed : Bool) (cs : List Char) : Option (List Nat) :=
  if cs.isEmpty then some []
  else
    let parts := Text.splitOnChar (· == ':') cs
    match parts.getLast? with
    | none => some []
    | some last =>
      if bytesAllowed ∧ last.contains '.' then do
        let front ← parts.dropLast.mapM group?
        match ← (Text.splitOnChar (· == '.') last).mapM plainByte? with
        | [a, b, c, d] => some (front ++ [a * 256 + b, c * 256 + d])
        | _ => none
      else parts.mapM group?

/-- The eight groups of an address; two colons stand for zeros, at least one group of them. -/
def eight? (cs : List Char) : Option (List Nat) :=
  match Text.splitAtFirst [':', ':'] cs with
  | none => (groups? true cs).bind fun gs => if gs.length = 8 then some gs else none
  | some (before, after) => do
    let front ← groups? false before
    let back ← groups? true after
    if 7 < front.length + back.length then none
    else some (front ++ List.replicate (8 - front.length - back.length) 0 ++ back)

/-- The first of the longest runs of zeros, as its start and its length. -/
def longestZeros (groups : List Nat) : Nat × Nat :=
  (List.range groups.length).foldl (fun best i =>
    let run := ((groups.drop i).takeWhile (· == 0)).length
    if best.2 < run then (i, run) else best) (0, 0)

/-- Eight groups without their longest run of zeros, if that is longer than one. -/
def eightText (groups : List Nat) : List Char :=
  let digits (gs : List Nat) : List Char := joinWith ':' (gs.map (Nat.toDigits 16))
  let (start, run) := longestZeros groups
  if run < 2 then digits groups
  else digits (groups.take start) ++ [':', ':'] ++ digits (groups.drop (start + run))

-- ==================================================== names

/-- A character that no name may hold. -/
def isForbidden (c : Char) : Bool :=
  c.toNat ≤ 32 || c.toNat == 127 ||
    ['%', '#', '/', ':', '<', '>', '?', '@', '[', '\\', ']', '^', '|'].contains c

/-- Characters that a name loses: the soft hyphen, joiners without width, selectors of variants. -/
def isDropped (c : Char) : Bool :=
  [0xAD, 0x200B, 0x2060, 0xFEFF].contains c.toNat || (0xFE00 ≤ c.toNat && c.toNat ≤ 0xFE0F)

/-- What a character of a name becomes: lower case, narrow, and a plain dot for other full stops. -/
def folded (c : Char) : List Char :=
  let narrow :=
    if 0xFF01 ≤ c.toNat ∧ c.toNat ≤ 0xFF5E then Char.ofNat (c.toNat - 0xFEE0)
    else if c.toNat = 0x3002 ∨ c.toNat = 0xFF61 then '.'
    else c
  if isDropped c then []
  else if c = 'ẞ' then ['s', 's']
  else if c.toNat ≠ 32 ∧ Text.isBlank c then [' ']
  else Text.lowerChar narrow

/-- A label in ASCII. A label that is already in that form has to be well formed. -/
def label? (l : List Char) : Option (List Char) :=
  if l.any fun c => 128 ≤ c.toNat then some ("xn--".toList ++ Punycode.encode l)
  else if l.take 4 = "xn--".toList then
    match Punycode.decode? (l.drop 4) with
    | some d =>
      let kept := d.all fun c => folded c = [c] && !(128 ≤ c.toNat && c.toNat < 160)
      if (d.any fun c => 128 ≤ c.toNat) ∧ kept ∧ Punycode.encode d = l.drop 4 then some l else none
    | none => none
  else some l

/-- A domain name in lower case and ASCII. -/
def name? (cs : List Char) : Option (List Char) := do
  let name := cs.flatMap folded
  if name.any fun c => isForbidden c || (128 ≤ c.toNat && c.toNat < 160) then none
  else joinWith '.' (← (Text.splitOnChar (· == '.') name).mapM label?)

/-- A host in its one form. -/
def parse? (cs : List Char) : Option (List Char) :=
  match cs with
  | '[' :: rest =>
    if rest.getLast? = some ']' then
      (eight? rest.dropLast).map fun gs => '[' :: eightText gs ++ [']']
    else none
  | cs => do
    let name ← name? (← Text.strictChars? (percentDecode cs))
    if name.isEmpty then none else if endsInNumber name then four? name else some name

end FunctionConsole.Web.Host
