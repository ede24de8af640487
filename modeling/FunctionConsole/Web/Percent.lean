import FunctionConsole.Text.Utf8

/-!
# Percent coding

A part of an address may hold only some of the characters; the bytes of the others are written as
`%` and two digits. Which ones are written so depends on the part: the sets grow from the fragment
to the path and the segment of a path. A character outside ASCII is written so everywhere.
-/

namespace FunctionConsole.Web

/-- A digit of base sixteen in upper case. -/
def hexDigit (n : Nat) : Char := Char.ofNat (if n < 10 then '0'.toNat + n else 'A'.toNat + n - 10)

/-- A byte as `%` and two digits. -/
def percentByte (b : UInt8) : List Char := ['%', hexDigit (b.toNat / 16), hexDigit (b.toNat % 16)]

/-- Writes the characters of a set, and all outside ASCII, by their bytes. -/
def percentEncode (set : Char → Bool) (cs : List Char) : List Char :=
  cs.flatMap fun c =>
    if c.toNat < 128 ∧ !set c then [c] else (String.utf8EncodeChar c).flatMap percentByte

/-- The control characters of ASCII. -/
def isControl (c : Char) : Bool := c.toNat < 32 || c.toNat == 127

/-- Characters that are written by their bytes in a query. -/
def inQuerySet (c : Char) : Bool := isControl c || [' ', '"', '#', '<', '>', '\''].contains c

/-- Characters that are written by their bytes in a fragment. -/
def inFragmentSet (c : Char) : Bool :=
  isControl c || [' ', '"', '<', '>', Char.ofNat 0x60].contains c

/-- Characters that are written by their bytes in a path. -/
def inPathSet (c : Char) : Bool := inFragmentSet c || ['#', '?', '\x7b', '\x7d'].contains c

/-- Characters that are written by their bytes in one segment of a path. -/
def inSegmentSet (c : Char) : Bool := inPathSet c || ['/', '%', '\\'].contains c

/-- Characters that are written by their bytes in a user name or a password. -/
def inUserSet (c : Char) : Bool :=
  inPathSet c || ['/', ':', ';', '=', '@', '[', '\\', ']', '^', '|'].contains c

/-- Characters that stand for themselves in the pairs of a form. -/
def isFormSafe (c : Char) : Bool := c.isAlphanum || ['*', '-', '.', '_'].contains c

/-- A name or value in the pairs of a form; a space is written as a plus. -/
def formEncode (cs : List Char) : List Char :=
  (percentEncode (fun c => !isFormSafe c && c ≠ ' ') cs).map fun c => if c = ' ' then '+' else c

/-- The value of a digit of base sixteen. -/
def hexValue? (c : Char) : Option Nat :=
  if '0' ≤ c ∧ c ≤ '9' then some (c.toNat - '0'.toNat)
  else if 'a' ≤ c ∧ c ≤ 'f' then some (c.toNat - 'a'.toNat + 10)
  else if 'A' ≤ c ∧ c ≤ 'F' then some (c.toNat - 'A'.toNat + 10)
  else none

/-- The bytes that a text with percent coding stands for. -/
def percentDecode : List Char → List UInt8
  | [] => []
  | '%' :: a :: b :: rest =>
    match hexValue? a, hexValue? b with
    | some x, some y => UInt8.ofNat (x * 16 + y) :: percentDecode rest
    | _, _ => '%'.toUInt8 :: percentDecode (a :: b :: rest)
  | c :: rest => String.utf8EncodeChar c ++ percentDecode rest

end FunctionConsole.Web
