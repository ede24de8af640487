import FunctionConsole.Json.Basic
import FunctionConsole.Json.Fault

/-!
# Reading a text from left to right

A text being read is a list of symbols: a character, or a stray byte that belongs to no character
(`none`). The cursor is the rest of the text with the place reached. A reader takes a cursor and
gives a value with the cursor after it, or the fault that stopped it.

Faults name one of two places. `stopHere` names the place already read; `stopAtNext` counts the
next symbol as read, because it is the symbol complained about.
-/

namespace FunctionConsole.Json

/-- What a text consists of: characters, and bytes that belong to none. -/
abbrev Symbol := Option Char

/-- The unread rest of a text and the place where it starts. -/
structure Cursor where
  rest : List Symbol
  place : Place
  deriving Repr

/-- A step of reading: a value and the cursor after it, or a fault. -/
abbrev Reader (α : Type) := Cursor → Except Fault (α × Cursor)

namespace Cursor

/-- The start of a text. -/
def ofSymbols (l : List Symbol) : Cursor := ⟨l, ⟨1, 0⟩⟩

/-- The start of a text without stray bytes. -/
def ofString (s : String) : Cursor := ofSymbols (s.toList.map some)

/-- The next character, if there is one and it is no stray byte. -/
def peek (c : Cursor) : Option Char :=
  match c.rest with
  | some ch :: _ => some ch
  | _ => none

/-- Whether the text is used up. -/
def atEnd (c : Cursor) : Bool := c.rest.isEmpty

/-- The cursor after the next symbol. -/
def advance (c : Cursor) : Cursor :=
  match c.rest with
  | [] => c
  | s :: rest => ⟨rest, c.place.after s⟩

/-- The place after the next byte, or the end. -/
def nextPlace (c : Cursor) : Place :=
  match c.rest with
  | [] => c.place
  | s :: _ => c.place.afterByte s

/-- The cursor after the blanks of the document format: space, line feed, tab, carriage return. -/
def skipBlanks (c : Cursor) : Cursor := go c.rest c.place
where
  /-- Moves past blanks. -/
  go : List Symbol → Place → Cursor
    | some ch :: rest, p =>
      if ch = ' ' || ch = '\n' || ch = '\t' || ch = '\r' then go rest (p.after (some ch))
      else ⟨some ch :: rest, p⟩
    | rest, p => ⟨rest, p⟩

end Cursor

namespace Reader

/-- Stops with a fault at the place already read. -/
def stopHere {α : Type} (cause : Cause) : Reader α := fun c => .error ⟨cause, c.place⟩

/-- Stops with a fault at the next symbol. -/
def stopAtNext {α : Type} (cause : Cause) : Reader α := fun c => .error ⟨cause, c.nextPlace⟩

/-- Moves past blanks. -/
def blanks : Reader Unit := fun c => .ok ((), c.skipBlanks)

/-- Moves past the next symbol. -/
def eat : Reader Unit := fun c => .ok ((), c.advance)

/-- The value `a`, with nothing read. -/
def give {α : Type} (a : α) : Reader α := fun c => .ok (a, c)

/-- One reader after another. -/
def andThen {α β : Type} (r : Reader α) (f : α → Reader β) : Reader β := fun c =>
  match r c with
  | .error e => .error e
  | .ok (a, c') => f a c'

/-- A reader with its value changed. -/
def map {α β : Type} (f : α → β) (r : Reader α) : Reader β := r.andThen fun a => give (f a)

-- ==================================================== words and numbers

/-- The rest of one of the words `null`, `true`, `false`, its first letter having been seen. -/
def word : List Char → Reader Unit
  | [] => give ()
  | w :: ws => fun c =>
    match c.rest with
    | [] => .error ⟨.endInValue, c.place⟩
    | s :: _ => if s = some w then word ws c.advance else .error ⟨.identExpected, (c.nextPlace)⟩

/-- The next character is a decimal digit: its value. -/
def digit? (c : Cursor) : Option Nat :=
  match c.peek with
  | some ch => if ch.isDigit then some (ch.toNat - '0'.toNat) else none
  | none => none

/-- Moves past decimal digits. -/
def skipDigits (c : Cursor) : Cursor := go c.rest c.place
where
  /-- Moves past digits. -/
  go : List Symbol → Place → Cursor
    | some ch :: rest, p =>
      if ch.isDigit then go rest (p.after (some ch)) else ⟨some ch :: rest, p⟩
    | rest, p => ⟨rest, p⟩

/-- Reads digits onto `n` while the result stays a word of 64 bits; says how many were read and
whether a digit was left because of that bound. -/
def digitsOnto (n : Nat) (c : Cursor) : Nat × Nat × Bool × Cursor := go c.rest c.place n 0
where
  /-- Reads digits, counting them. -/
  go : List Symbol → Place → Nat → Nat → Nat × Nat × Bool × Cursor
    | some ch :: rest, p, n, k =>
      if ch.isDigit then
        let n' := n * 10 + (ch.toNat - '0'.toNat)
        if n' < UInt64.size then go rest (p.after (some ch)) n' (k + 1)
        else (n, k, true, ⟨some ch :: rest, p⟩)
      else (n, k, false, ⟨some ch :: rest, p⟩)
    | rest, p, n, k => (n, k, false, ⟨rest, p⟩)

/-- The value `significand * 10 ^ exponent`, computed by one correctly rounded multiplication or
division by a power of ten (several divisions far below the range); none if it is too large. -/
def scaled? (significand : Nat) (exponent : Int) : Option Float :=
  go 6 (Float.ofNat significand) exponent
where
  /-- Divides by `10 ^ 308` until the exponent is within the table of powers. -/
  go : Nat → Float → Int → Option Float
    | 0, _, _ => some 0.0
    | n + 1, f, e =>
      if e.natAbs ≤ 308 then
        let power := Float.ofScientific 1 false e.natAbs
        if e ≥ 0 then
          let r := f * power
          if r.isInf then none else some r
        else some (f / power)
      else if f == 0.0 then some f
      else if e ≥ 0 then none
      else go n (f / 1e308) (e + 308)

/-- A float with a sign, or the fault that it is too large. -/
def float (positive : Bool) (significand : Nat) (exponent : Int) : Reader Number := fun c =>
  match scaled? significand exponent with
  | none => .error ⟨.numberOutOfRange, c.place⟩
  | some f => .ok (.float (if positive then f else -f).toBits, c)

/-- An exponent of this size no longer fits the exponent counter. -/
def exponentLimit : Nat := Nat.pow 2 31

/-- Reads the digits of an exponent; none when they no longer fit the counter, in which case the
reading stops after the digit that overflowed. -/
def exponentDigits (n : Nat) (c : Cursor) : Option Nat × Cursor := go c.rest c.place n
where
  /-- Reads digits. -/
  go : List Symbol → Place → Nat → Option Nat × Cursor
    | some ch :: rest, p, n =>
      if ch.isDigit then
        let n' := n * 10 + (ch.toNat - '0'.toNat)
        if n' < exponentLimit then go rest (p.after (some ch)) n'
        else (none, ⟨rest, p.after (some ch)⟩)
      else (some n, ⟨some ch :: rest, p⟩)
    | rest, p, n => (some n, ⟨rest, p⟩)

/-- The exponent part, its letter being next. -/
def exponent (positive : Bool) (significand : Nat) (start : Int) : Reader Number := fun c0 =>
  let c1 := c0.advance
  let negative := c1.peek == some '-'
  let c2 := if negative || c1.peek == some '+' then c1.advance else c1
  if c2.atEnd then .error ⟨.endInValue, c2.place⟩
  else match digit? c2 with
    | none => .error ⟨.badNumber, c2.nextPlace⟩
    | some d =>
      match exponentDigits d c2.advance with
      | (some e, c3) =>
        float positive significand (if negative then start - (e : Int) else start + (e : Int)) c3
      | (none, c3) =>
        if significand != 0 && !negative then .error ⟨.numberOutOfRange, c3.place⟩
        else .ok (.float (if positive then (0.0 : Float) else -0.0).toBits, skipDigits c3)

/-- What may follow the digits of a decimal: an exponent or nothing. -/
def afterDigits (positive : Bool) (significand : Nat) (exp : Int) : Reader Number := fun c =>
  if c.peek == some 'e' || c.peek == some 'E' then exponent positive significand exp c
  else float positive significand exp c

/-- The digits after the point, the point being next. Digits that no longer fit the significand
are passed over. -/
def fraction (positive : Bool) (significand : Nat) (exp : Int) : Reader Number := fun c0 =>
  let (n, k, full, c1) := digitsOnto significand c0.advance
  if full then afterDigits positive n (exp - (k : Int)) (skipDigits c1)
  else if k == 0 then
    .error ⟨if c1.atEnd then .endInValue else .badNumber, c1.nextPlace⟩
  else afterDigits positive n (exp - (k : Int)) c1

/-- A whole number whose digits no longer fit the significand: each further digit counts one in the
exponent. -/
def longWhole (positive : Bool) (significand : Nat) : Reader Number := fun c0 =>
  let c1 := skipDigits c0
  let exp : Int := ((c0.rest.length - c1.rest.length : Nat) : Int)
  if c1.peek == some '.' then fraction positive significand exp c1
  else afterDigits positive significand exp c1

/-- What may follow the digits of a whole number. A negative number below `-2 ^ 63` and `-0` are
floats. -/
def afterWhole (positive : Bool) (significand : Nat) : Reader Number := fun c =>
  if c.peek == some '.' then fraction positive significand 0 c
  else if c.peek == some 'e' || c.peek == some 'E' then exponent positive significand 0 c
  else if positive then .ok (.whole significand, c)
  else if significand == 0 || significand > Nat.pow 2 63 then
    .ok (.float (-(Float.ofNat significand)).toBits, c)
  else .ok (.whole (-(significand : Int)), c)

/-- A number after its sign. -/
def number (positive : Bool) : Reader Number := fun c0 =>
  if c0.atEnd then .error ⟨.endInValue, c0.place⟩
  else match digit? c0 with
    | none => .error ⟨.badNumber, c0.nextPlace⟩
    | some 0 =>
      let c1 := c0.advance
      if (digit? c1).isSome then .error ⟨.badNumber, c1.nextPlace⟩ else afterWhole positive 0 c1
    | some d =>
      let (n, _, full, c1) := digitsOnto d c0.advance
      if full then longWhole positive n c1 else afterWhole positive n c1

/-- A number, its sign or first digit being next. -/
def signedNumber : Reader Number := fun c =>
  if c.peek == some '-' then number false c.advance else number true c

-- ==================================================== strings

/-- The value of a hexadecimal digit. -/
def hexValue? (c : Char) : Option Nat :=
  if c.isDigit then some (c.toNat - '0'.toNat)
  else if 'a' ≤ c && c ≤ 'f' then some (c.toNat - 'a'.toNat + 10)
  else if 'A' ≤ c && c ≤ 'F' then some (c.toNat - 'A'.toNat + 10)
  else none

/-- The bytes that the symbols of a text take. -/
def byteCount (l : List Symbol) : Nat :=
  l.foldl (fun n s => n + match s with | some c => c.utf8Size | none => 1) 0

/-- The place `n` bytes further, which may lie inside a character. -/
def placeAfterBytes : Nat → List Symbol → Place → Place
  | 0, _, p => p
  | _, [], p => p
  | n + 1, s :: rest, p =>
    match s with
    | none => placeAfterBytes n rest (p.afterByte none)
    | some c =>
      if c.utf8Size ≤ n + 1 then placeAfterBytes (n + 1 - c.utf8Size) rest (p.after (some c))
      else ⟨p.line, p.column + (n + 1)⟩

/-- The four digits of a hexadecimal escape. -/
def hexEscape : Reader Nat := fun c =>
  let bad : Fault :=
    if byteCount c.rest < 4 then ⟨.endInString, placeAfterBytes 4 c.rest c.place⟩
    else ⟨.badEscape, placeAfterBytes 4 c.rest c.place⟩
  match c.rest with
  | some a :: some b :: some d :: some e :: rest =>
    match hexValue? a, hexValue? b, hexValue? d, hexValue? e with
    | some a, some b, some d, some e =>
      .ok (((a * 16 + b) * 16 + d) * 16 + e, ⟨rest, ⟨c.place.line, c.place.column + 4⟩⟩)
    | _, _, _, _ => .error bad
  | _ => .error bad

/-- The next symbol has to be the given one, inside a pair of surrogate escapes. -/
def pairSymbol (ch : Char) : Reader Unit := fun c =>
  match c.rest with
  | [] => .error ⟨.endInString, c.place⟩
  | s :: _ => if s = some ch then .ok ((), c.advance) else .error ⟨.cutSurrogatePair, c.nextPlace⟩

/-- The character of an escape by number; one above U+FFFF is written as two escapes. -/
def unicodeEscape : Reader Char :=
  hexEscape.andThen fun n =>
    if 0xDC00 ≤ n && n ≤ 0xDFFF then stopHere .loneSurrogate
    else if 0xD800 ≤ n && n ≤ 0xDBFF then
      (pairSymbol '\\').andThen fun _ => (pairSymbol 'u').andThen fun _ =>
        hexEscape.andThen fun m =>
          if 0xDC00 ≤ m && m ≤ 0xDFFF then
            give (Char.ofNat ((n - 0xD800) * 0x400 + (m - 0xDC00) + 0x10000))
          else stopHere .loneSurrogate
    else give (Char.ofNat n)

/-- The character that a one-letter escape stands for. -/
def letterEscape? (c : Char) : Option Char :=
  if c = '"' || c = '\\' || c = '/' then some c
  else if c = 'b' then some '\x08'
  else if c = 'f' then some '\x0c'
  else if c = 'n' then some '\n'
  else if c = 'r' then some '\r'
  else if c = 't' then some '\t'
  else none

/-- The symbols of a string up to its closing quote, the opening one having been read. A stray byte
is kept until the end, where the whole string is refused for it. -/
def stringBody : Nat → Bool → List Char → Reader String
  | 0, _, _ => stopHere .endInString
  | n + 1, sound, acc => fun c =>
    match c.rest with
    | [] => .error ⟨.endInString, c.place⟩
    | none :: _ => stringBody n false acc c.advance
    | some ch :: _ =>
      let c1 := c.advance
      if ch = '"' then
        if sound then .ok (String.ofList acc.reverse, c1) else .error ⟨.badUnicode, c1.place⟩
      else if ch = '\\' then
        match c1.rest with
        | [] => .error ⟨.endInString, c1.place⟩
        | some 'u' :: _ => (unicodeEscape.andThen fun e => stringBody n sound (e :: acc)) c1.advance
        | some e :: _ =>
          match letterEscape? e with
          | some e => stringBody n sound (e :: acc) c1.advance
          | none => .error ⟨.badEscape, c1.nextPlace⟩
        | none :: _ => .error ⟨.badEscape, c1.nextPlace⟩
      else if ch.toNat < 0x20 then .error ⟨.controlCharacter, c.nextPlace⟩
      else stringBody n sound (ch :: acc) c1

/-- A string, its opening quote being next. -/
def string : Reader String := fun c =>
  let c1 := c.advance
  stringBody (c1.rest.length + 1) true [] c1

-- ==================================================== brackets

/-- After an opening bracket or a comma, with blanks passed: what the list goes on with. -/
inductive Next where
  | item
  | close
  deriving DecidableEq

/-- Whether a list has one more item; a comma before it is read. -/
def listNext (first : Bool) : Reader Next := fun c0 =>
  let c := c0.skipBlanks
  if c.atEnd then .error ⟨.endInList, c.place⟩
  else if c.peek == some ']' then .ok (.close, c)
  else if first then .ok (.item, c)
  else if c.peek == some ',' then
    let c1 := c.advance.skipBlanks
    if c1.atEnd then .error ⟨.endInValue, c1.place⟩
    else if c1.peek == some ']' then .error ⟨.trailingComma, c1.nextPlace⟩
    else .ok (.item, c1)
  else .error ⟨.listCommaOrEndExpected, c.nextPlace⟩

/-- Whether an object has one more field; a comma before it is read, and the quote of the key is
next. -/
def fieldNext (first : Bool) : Reader Next := fun c0 =>
  let c := c0.skipBlanks
  if c.atEnd then .error ⟨.endInObject, c.place⟩
  else if c.peek == some '\x7d' then .ok (.close, c)
  else if first then
    if c.peek == some '"' then .ok (.item, c) else .error ⟨.keyNotString, c.nextPlace⟩
  else if c.peek == some ',' then
    let c1 := c.advance.skipBlanks
    if c1.atEnd then .error ⟨.endInValue, c1.place⟩
    else if c1.peek == some '"' then .ok (.item, c1)
    else if c1.peek == some '\x7d' then .error ⟨.trailingComma, c1.nextPlace⟩
    else .error ⟨.keyNotString, c1.nextPlace⟩
  else .error ⟨.objectCommaOrEndExpected, c.nextPlace⟩

/-- The colon between a key and its value. -/
def colon : Reader Unit := fun c0 =>
  let c := c0.skipBlanks
  if c.atEnd then .error ⟨.endInObject, c.place⟩
  else if c.peek == some ':' then .ok ((), c.advance)
  else .error ⟨.colonExpected, c.nextPlace⟩

/-- The bracket that closes a list whose items are all read, for a list of fixed length. -/
def closeList : Reader Unit := fun c0 =>
  let c := c0.skipBlanks
  if c.atEnd then .error ⟨.endInList, c.place⟩
  else if c.peek == some ']' then .ok ((), c.advance)
  else if c.peek == some ',' then
    let c1 := c.advance.skipBlanks
    if c1.peek == some ']' then .error ⟨.trailingComma, c1.nextPlace⟩
    else .error ⟨.trailingCharacters, c1.nextPlace⟩
  else .error ⟨.trailingCharacters, c.nextPlace⟩

/-- The items of a list, its opening bracket being next. -/
def list {α : Type} (item : Reader α) : Reader (List α) := fun c =>
  go (c.rest.length + 1) true c.advance
where
  /-- Reads items up to the closing bracket, which is read too. -/
  go : Nat → Bool → Reader (List α)
    | 0, _ => stopHere .endInList
    | n + 1, first => fun c =>
      match listNext first c with
      | .error e => .error e
      | .ok (.close, c1) => .ok ([], c1.advance)
      | .ok (.item, c1) => (item.andThen fun a => (go n false).map (a :: ·)) c1

/-- The fields of an object, its opening bracket being next: `step` reads the value of the key it
is given into what has been gathered, and `finish` makes the object's value of that. -/
def object {σ α : Type} (start : σ) (step : String → σ → Reader σ) (finish : σ → Reader α) :
    Reader α := fun c =>
  go (c.rest.length + 1) true start c.advance
where
  /-- Reads fields up to the closing bracket, which is read too. -/
  go : Nat → Bool → σ → Reader α
    | 0, _, _ => stopHere .endInObject
    | n + 1, first, s => fun c =>
      match fieldNext first c with
      | .error e => .error e
      | .ok (.close, c1) => finish s c1.advance
      | .ok (.item, c1) => (string.andThen fun key => (step key s).andThen (go n false)) c1

end Reader

end FunctionConsole.Json
