import FunctionConsole.Json.Basic
import FunctionConsole.Decimal.Shortest

/-!
# Writing documents

The compact form has no blanks. The spread form puts each item and field on a line of its own, two
spaces deeper than its bracket, and leaves an empty pair of brackets closed.
-/

namespace FunctionConsole.Json

/-- One of the sixteen hexadecimal digits, in lower case. -/
def hexDigit (n : Nat) : Char :=
  if n < 10 then Char.ofNat ('0'.toNat + n) else Char.ofNat ('a'.toNat + (n - 10))

/-- How a character stands inside a written string. -/
def writeChar (c : Char) : List Char :=
  if c = '"' then ['\\', '"']
  else if c = '\\' then ['\\', '\\']
  else if c = '\n' then ['\\', 'n']
  else if c = '\r' then ['\\', 'r']
  else if c = '\t' then ['\\', 't']
  else if c = '\x08' then ['\\', 'b']
  else if c = '\x0c' then ['\\', 'f']
  else if c.toNat < 0x20 then ['\\', 'u', '0', '0', hexDigit (c.toNat / 16), hexDigit (c.toNat % 16)]
  else [c]

/-- A string between quotes. -/
def writeString (s : String) : List Char := '"' :: s.toList.flatMap writeChar ++ ['"']

/-- The text of a number. -/
def writeNumber : Number → List Char
  | .whole n => (toString n).toList
  | .float bits => (Decimal.renderBits bits).toList

mutual

/-- The compact text of a document. -/
def write : Json → List Char
  | .null => ['n', 'u', 'l', 'l']
  | .bool true => ['t', 'r', 'u', 'e']
  | .bool false => ['f', 'a', 'l', 's', 'e']
  | .number n => writeNumber n
  | .string s => writeString s
  | .array items => '[' :: writeItems items ++ [']']
  | .object fields => '\x7b' :: writeFields fields ++ ['\x7d']

/-- Items with commas between them. -/
def writeItems : List Json → List Char
  | [] => []
  | [v] => write v
  | v :: w :: rest => write v ++ ',' :: writeItems (w :: rest)

/-- Fields with commas between them. -/
def writeFields : List (String × Json) → List Char
  | [] => []
  | [(k, v)] => writeString k ++ ':' :: write v
  | (k, v) :: f :: rest => writeString k ++ ':' :: write v ++ ',' :: writeFields (f :: rest)

end

/-- The compact text of a document, as a string. -/
def compact (v : Json) : String := String.ofList (write v)

/-- A line break and the blanks of a depth. -/
def newLine (depth : Nat) : List Char := '\n' :: List.replicate (2 * depth) ' '

mutual

/-- The spread text of a document inside `depth` brackets. -/
def spreadAt (depth : Nat) : Json → List Char
  | .array [] => ['[', ']']
  | .array items => '[' :: spreadItems (depth + 1) items ++ newLine depth ++ [']']
  | .object [] => ['\x7b', '\x7d']
  | .object fields => '\x7b' :: spreadFields (depth + 1) fields ++ newLine depth ++ ['\x7d']
  | .null => write .null
  | .bool b => write (.bool b)
  | .number n => writeNumber n
  | .string s => writeString s

/-- Items, each on its line. -/
def spreadItems (depth : Nat) : List Json → List Char
  | [] => []
  | [v] => newLine depth ++ spreadAt depth v
  | v :: w :: rest => newLine depth ++ spreadAt depth v ++ ',' :: spreadItems depth (w :: rest)

/-- Fields, each on its line. -/
def spreadFields (depth : Nat) : List (String × Json) → List Char
  | [] => []
  | [(k, v)] => newLine depth ++ writeString k ++ ':' :: ' ' :: spreadAt depth v
  | (k, v) :: f :: rest =>
    newLine depth ++ writeString k ++ ':' :: ' ' :: spreadAt depth v ++
      ',' :: spreadFields depth (f :: rest)

end

/-- The spread text of a document, as a string. -/
def spread (v : Json) : String := String.ofList (spreadAt 0 v)

end FunctionConsole.Json
