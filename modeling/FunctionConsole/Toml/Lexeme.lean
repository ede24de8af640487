import FunctionConsole.Toml.Basic

/-!
# The words of a TOML text

Blanks, comments, keys, strings, numbers and moments. A step takes the characters that are left
and answers what it read with what is left after it, or nothing if it cannot read on.
-/

namespace FunctionConsole.Toml

/-- What was read, and the characters after it. -/
abbrev Read (α : Type) := Option (α × List Char)

-- ==================================================== blanks and line ends

/-- A space or a tab. -/
def isBlank (c : Char) : Bool := c == ' ' || c == '\t'

/-- Skips blanks. -/
def skipBlanks (cs : List Char) : List Char := cs.dropWhile isBlank

/-- A character that may stand in a comment or a literal string: no control character but the tab. -/
def isPlain (c : Char) : Bool := c == '\t' || (' ' ≤ c && c ≠ '\x7f')

/-- A line break, which may be missing at the end of the text. -/
def lineEnd : List Char → Option (List Char)
  | [] => some []
  | '\n' :: cs => some cs
  | '\r' :: '\n' :: cs => some cs
  | _ => none

/-- The end of a line: blanks, perhaps a comment, and the break. -/
def lineRest (cs : List Char) : Option (List Char) :=
  match skipBlanks cs with
  | '#' :: cs => lineEnd (cs.dropWhile isPlain)
  | cs => lineEnd cs

/-- Skips blanks, breaks and whole comments, as between the values of an array. -/
def skipLines : (fuel : Nat) → List Char → Option (List Char)
  | 0, cs => some cs
  | fuel + 1, cs =>
    match skipBlanks cs with
    | '\n' :: cs => skipLines fuel cs
    | '\r' :: '\n' :: cs => skipLines fuel cs
    | '\r' :: _ => none
    | '#' :: cs =>
      match cs.dropWhile isPlain with
      | '\n' :: cs => skipLines fuel cs
      | '\r' :: '\n' :: cs => skipLines fuel cs
      | _ => none
    | cs => some cs

-- ==================================================== digits

/-- The value of a digit in a base up to sixteen. -/
def digit? (base : Nat) (c : Char) : Option Nat :=
  let n :=
    if '0' ≤ c ∧ c ≤ '9' then c.toNat - '0'.toNat
    else if 'a' ≤ c ∧ c ≤ 'f' then c.toNat - 'a'.toNat + 10
    else if 'A' ≤ c ∧ c ≤ 'F' then c.toNat - 'A'.toNat + 10
    else base
  if n < base then some n else none

/-- Exactly so many digits, as a number. -/
def fixedDigits (base : Nat) : (count : Nat) → (sofar : Nat) → List Char → Read Nat
  | 0, sofar, cs => some (sofar, cs)
  | _ + 1, _, [] => none
  | count + 1, sofar, c :: cs =>
    match digit? base c with
    | some d => fixedDigits base count (sofar * base + d) cs
    | none => none

/-- Digits, each after the first perhaps behind an underscore; `before` says one was just read. -/
def digitRun (base : Nat) : (before : Bool) → List Char → Read (List Nat)
  | before, [] => if before then some ([], []) else none
  | true, '_' :: cs =>
    match cs with
    | [] => none
    | c :: rest =>
      match digit? base c with
      | some d => (digitRun base true rest).map fun (ds, cs) => (d :: ds, cs)
      | none => none
  | before, c :: cs =>
    match digit? base c with
    | some d => (digitRun base true cs).map fun (ds, cs) => (d :: ds, cs)
    | none => if before then some ([], c :: cs) else none

/-- The number that digits write. -/
def ofDigits (base : Nat) (ds : List Nat) : Nat := ds.foldl (fun n d => n * base + d) 0

-- ==================================================== strings

/-- The character with a number, if there is one. -/
def scalar? (n : Nat) : Option Char :=
  if h : n.isValidChar then some (Char.ofNatAux n h) else none

/-- The character that an escape stands for, given what follows the backslash. -/
def escape : List Char → Read Char
  | 'b' :: cs => some ('\x08', cs)
  | 'f' :: cs => some ('\x0c', cs)
  | 'n' :: cs => some ('\n', cs)
  | 'r' :: cs => some ('\r', cs)
  | 't' :: cs => some ('\t', cs)
  | '\\' :: cs => some ('\\', cs)
  | '"' :: cs => some ('"', cs)
  | 'u' :: cs => (fixedDigits 16 4 0 cs).bind fun (n, cs) => (scalar? n).map (·, cs)
  | 'U' :: cs => (fixedDigits 16 8 0 cs).bind fun (n, cs) => (scalar? n).map (·, cs)
  | _ => none

/-- A string on one line, after its opening quote. -/
def basicString : (fuel : Nat) → List Char → Read (List Char)
  | 0, _ => none
  | _ + 1, [] => none
  | fuel + 1, c :: cs =>
    if c = '"' then some ([], cs)
    else if c = '\\' then
      match escape cs with
      | some (e, cs) => (basicString fuel cs).map fun (s, cs) => (e :: s, cs)
      | none => none
    else if isPlain c then (basicString fuel cs).map fun (s, cs) => (c :: s, cs)
    else none

/-- A string on one line without escapes, after its opening quote. -/
def literalString (cs : List Char) : Read (List Char) :=
  match cs.dropWhile fun c => isPlain c && c ≠ '\'' with
  | '\'' :: rest => some (cs.takeWhile fun c => isPlain c && c ≠ '\'', rest)
  | _ => none

/-- Whether a line breaks after blanks: a backslash before it takes the break out of the string. -/
def breaksHere (cs : List Char) : Bool :=
  match skipBlanks cs with
  | '\n' :: _ => true
  | '\r' :: '\n' :: _ => true
  | _ => false

/-- Blanks and breaks that a backslash at the end of a line takes out. -/
def skipGap : List Char → List Char
  | '\n' :: cs => skipGap cs
  | '\r' :: '\n' :: cs => skipGap cs
  | ' ' :: cs => skipGap cs
  | '\t' :: cs => skipGap cs
  | cs => cs

/--
A string over several lines, up to its closing three quotes; up to two more quotes before them
belong to the string. Escapes count only where `escapes` says so, and a break reads as one newline.
-/
def longString (quote : Char) (escapes : Bool) : (fuel : Nat) → List Char → Read (List Char)
  | 0, _ => none
  | _ + 1, [] => none
  | fuel + 1, c :: cs =>
    let go (taken : List Char) (cs : List Char) : Read (List Char) :=
      (longString quote escapes fuel cs).map fun (s, cs) => (taken ++ s, cs)
    if c = quote then
      let n := ((c :: cs).take 5).takeWhile (· == quote) |>.length
      if n < 3 then go [c] cs else some (List.replicate (n - 3) quote, (c :: cs).drop n)
    else if escapes && c == '\\' then
      if breaksHere cs then go [] (skipGap cs)
      else
        match escape cs with
        | some (e, cs) => go [e] cs
        | none => none
    else if c = '\n' then go ['\n'] cs
    else if c = '\r' then
      match cs with
      | '\n' :: cs => go ['\n'] cs
      | _ => none
    else if isPlain c then go [c] cs
    else none

/-- A break right after opening quotes does not count. -/
def skipFirstBreak : List Char → List Char
  | '\n' :: cs => cs
  | '\r' :: '\n' :: cs => cs
  | cs => cs

/-- A string of any of the four kinds. -/
def string (cs : List Char) : Read String :=
  let text (r : Read (List Char)) : Read String := r.map fun (s, cs) => (String.ofList s, cs)
  match cs with
  | '"' :: '"' :: '"' :: cs => text (longString '"' true (cs.length + 1) (skipFirstBreak cs))
  | '"' :: cs => text (basicString (cs.length + 1) cs)
  | '\'' :: '\'' :: '\'' :: cs => text (longString '\'' false (cs.length + 1) (skipFirstBreak cs))
  | '\'' :: cs => text (literalString cs)
  | _ => none

-- ==================================================== keys

/-- A character of a key without quotes. -/
def isKeyChar (c : Char) : Bool :=
  ('a' ≤ c && c ≤ 'z') || ('A' ≤ c && c ≤ 'Z') || ('0' ≤ c && c ≤ '9') || c == '-' || c == '_'

/-- One part of a key. -/
def keyPart (cs : List Char) : Read String :=
  match cs with
  | '"' :: cs => (basicString (cs.length + 1) cs).map fun (s, cs) => (String.ofList s, cs)
  | '\'' :: cs => (literalString cs).map fun (s, cs) => (String.ofList s, cs)
  | cs =>
    let part := cs.takeWhile isKeyChar
    if part.isEmpty then none else some (String.ofList part, cs.dropWhile isKeyChar)

/-- Parts of a key with dots between them, and blanks around each. -/
def keyParts : (fuel : Nat) → List Char → Read (List String)
  | 0, _ => none
  | fuel + 1, cs =>
    match keyPart (skipBlanks cs) with
    | none => none
    | some (k, cs) =>
      match skipBlanks cs with
      | '.' :: cs => (keyParts fuel cs).map fun (ks, cs) => (k :: ks, cs)
      | cs => some ([k], cs)

/-- Keys have fewer parts than this, and values nest less deep. -/
def depthLimit : Nat := 80

/-- A key of one part or more. -/
def key (cs : List Char) : Read (List String) := keyParts (depthLimit - 1) cs

-- ==================================================== moments

/-- A number of two digits within bounds. -/
def twoDigits (low high : Nat) (cs : List Char) : Read Nat :=
  (fixedDigits 10 2 0 cs).bind fun (n, cs) => if low ≤ n ∧ n ≤ high then some (n, cs) else none

/-- Exactly this character. -/
def exactly (c : Char) : List Char → Option (List Char)
  | d :: cs => if d = c then some cs else none
  | [] => none

/-- How many days a month has. -/
def daysInMonth (year month : Nat) : Nat :=
  if month = 2 then
    if year % 4 = 0 ∧ (year % 100 ≠ 0 ∨ year % 400 = 0) then 29 else 28
  else if month = 4 ∨ month = 6 ∨ month = 9 ∨ month = 11 then 30
  else 31

/-- A day of the calendar. -/
def fullDate (cs : List Char) : Option (List Char) := do
  let (year, cs) ← fixedDigits 10 4 0 cs
  let cs ← exactly '-' cs
  let (month, cs) ← twoDigits 1 12 cs
  let cs ← exactly '-' cs
  let (_, cs) ← twoDigits 1 (daysInMonth year month) cs
  some cs

/-- A time of the day; a minute may have a sixty-first second. -/
def dayTime (cs : List Char) : Option (List Char) := do
  let (_, cs) ← twoDigits 0 23 cs
  let cs ← exactly ':' cs
  let (_, cs) ← twoDigits 0 59 cs
  let cs ← exactly ':' cs
  let (_, cs) ← twoDigits 0 60 cs
  match cs with
  | '.' :: rest =>
    if (rest.takeWhile fun c => (digit? 10 c).isSome).isEmpty then some cs
    else some (rest.dropWhile fun c => (digit? 10 c).isSome)
  | cs => some cs

/-- How far a clock is from the common one, where a moment says so. -/
def zoneOffset (cs : List Char) : List Char :=
  match cs with
  | 'Z' :: rest => rest
  | 'z' :: rest => rest
  | c :: rest =>
    if c = '+' ∨ c = '-' then
      ((do
        let (_, r) ← twoDigits 0 23 rest
        let r ← exactly ':' r
        let (_, r) ← twoDigits 0 59 r
        pure r : Option (List Char))).getD cs
    else cs
  | [] => []

/-- A day, a time, or both. -/
def moment (cs : List Char) : Read Item :=
  match fullDate cs with
  | some rest =>
    match rest with
    | c :: after =>
      if c = 'T' ∨ c = 't' ∨ c = ' ' then
        match dayTime after with
        | some after => some (.moment, zoneOffset after)
        | none => some (.moment, rest)
      else some (.moment, rest)
    | [] => some (.moment, [])
  | none => (dayTime cs).map (.moment, ·)

-- ==================================================== numbers

/-- A sign, which may be missing, and whether it is a minus. -/
def sign : List Char → Bool × List Char
  | '-' :: cs => (true, cs)
  | '+' :: cs => (false, cs)
  | cs => (false, cs)

/-- The digits of a whole number, which start with zero only if zero is all there is. -/
def wholeDigits : List Char → Read (List Nat)
  | '0' :: cs => some ([0], cs)
  | cs => digitRun 10 false cs

/-- A number of sixty-four bits, sign included. -/
def word? (n : Int) : Option Item :=
  if -9223372036854775808 ≤ n ∧ n ≤ 9223372036854775807 then some (.integer n) else none

/--
Whether a decimal is too large for a floating-point number: digits times a power of ten from
2 ^ 1024 - 2 ^ 970 on.
-/
def overflows (digits : List Nat) (exponent : Int) : Bool :=
  let digits := digits.dropWhile (· == 0)
  let places : Int := digits.length + exponent
  if digits.isEmpty ∨ places < 309 then false
  else if 310 < places then true
  else
    let n := ofDigits 10 digits
    let limit := Nat.pow 2 1024 - Nat.pow 2 970
    limit * Nat.pow 10 (-exponent).toNat ≤ n * Nat.pow 10 exponent.toNat

/-- The power of ten behind a number with a fraction. -/
def exponent (cs : List Char) : Read Int :=
  match cs with
  | c :: cs =>
    if c = 'e' ∨ c = 'E' then
      let (minus, cs) := sign cs
      (digitRun 10 false cs).map fun (ds, cs) =>
        let n : Int := ofDigits 10 ds
        (if minus then -n else n, cs)
    else none
  | [] => none

/-- The fraction and the power of ten behind whole digits, at least one of the two. -/
def floatTail : List Char → Read (List Nat × Int)
  | '.' :: cs =>
    (digitRun 10 false cs).map fun (fraction, cs) =>
      let (e, cs) := (exponent cs).getD (0, cs)
      ((fraction, e - fraction.length), cs)
  | cs => (exponent cs).map fun (e, cs) => (([], e), cs)

/-- A number with a fraction, a power of ten or both. A negative one is never too large. -/
def floatDigits (cs : List Char) : Read Item :=
  let (minus, cs) := sign cs
  (wholeDigits cs).bind fun (whole, cs) =>
    (floatTail cs).bind fun ((fraction, e), cs) =>
      if !minus && overflows (whole ++ fraction) e then none else some (.float, cs)

/-- A number that is not finite. -/
def namedFloat (cs : List Char) : Read Item :=
  match (sign cs).2 with
  | 'i' :: 'n' :: 'f' :: cs => some (.float, cs)
  | 'n' :: 'a' :: 'n' :: cs => some (.float, cs)
  | _ => none

/-- A whole number, in base ten or after a mark for another base. -/
def integer (cs : List Char) : Read Item :=
  let based (base : Nat) (cs : List Char) : Read Item :=
    (digitRun base false cs).bind fun (ds, cs) => (word? (ofDigits base ds)).map (·, cs)
  match cs with
  | '0' :: 'x' :: cs => based 16 cs
  | '0' :: 'o' :: cs => based 8 cs
  | '0' :: 'b' :: cs => based 2 cs
  | cs =>
    let (minus, cs) := sign cs
    (wholeDigits cs).bind fun (ds, cs) =>
      let n : Int := ofDigits 10 ds
      (word? (if minus then -n else n)).map (·, cs)

/-- A value that starts like a number: a moment, a number with a fraction, or a whole one. -/
def number (cs : List Char) : Read Item :=
  moment cs <|> floatDigits cs <|> namedFloat cs <|> integer cs

/-- A truth value. -/
def truth : List Char → Read Item
  | 't' :: 'r' :: 'u' :: 'e' :: cs => some (.bool true, cs)
  | 'f' :: 'a' :: 'l' :: 's' :: 'e' :: cs => some (.bool false, cs)
  | _ => none

end FunctionConsole.Toml
