/-!
# Text in bytes

Characters read from bytes in UTF-8. Bytes that belong to no character are kept as such, in pieces
as long as a character could still have begun there; a reader of loose text shows each such piece
as one replacement character.
-/

namespace FunctionConsole.Text

/-- A part of a byte sequence: a character, or so many bytes that belong to none. -/
inductive Piece where
  | char (c : Char)
  | stray (bytes : Nat)
  deriving DecidableEq, Repr

/-- The character that replaces stray bytes. -/
def replacement : Char := '\uFFFD'

/-- The six payload bits of a byte that continues a character within bounds. -/
def continued? (low high : UInt8) : List UInt8 → Option (Nat × List UInt8)
  | b :: rest => if low ≤ b ∧ b ≤ high then some (b.toNat % 64, rest) else none
  | [] => none

/-- A character of three bytes, whose second byte lies within bounds. -/
def threeBytes (first : Nat) (low high : UInt8) (rest : List UInt8) : Piece × List UInt8 :=
  match continued? low high rest with
  | none => (.stray 1, rest)
  | some (b, rest) =>
    match continued? 0x80 0xBF rest with
    | none => (.stray 2, rest)
    | some (c, rest) => (.char (Char.ofNat ((first * 64 + b) * 64 + c)), rest)

/-- A character of four bytes, whose second byte lies within bounds. -/
def fourBytes (first : Nat) (low high : UInt8) (rest : List UInt8) : Piece × List UInt8 :=
  match continued? low high rest with
  | none => (.stray 1, rest)
  | some (b, rest) =>
    match continued? 0x80 0xBF rest with
    | none => (.stray 2, rest)
    | some (c, rest) =>
      match continued? 0x80 0xBF rest with
      | none => (.stray 3, rest)
      | some (d, rest) => (.char (Char.ofNat (((first * 64 + b) * 64 + c) * 64 + d)), rest)

/-- The piece that starts with a byte, and the bytes after it. -/
def pieceAt (b : UInt8) (rest : List UInt8) : Piece × List UInt8 :=
  if b < 0x80 then (.char (Char.ofNat b.toNat), rest)
  else if b < 0xC2 then (.stray 1, rest)
  else if b < 0xE0 then
    match continued? 0x80 0xBF rest with
    | none => (.stray 1, rest)
    | some (c, rest) => (.char (Char.ofNat (b.toNat % 32 * 64 + c)), rest)
  else if b = 0xE0 then threeBytes 0 0xA0 0xBF rest
  else if b = 0xED then threeBytes 0xD 0x80 0x9F rest
  else if b < 0xF0 then threeBytes (b.toNat % 16) 0x80 0xBF rest
  else if b = 0xF0 then fourBytes 0 0x90 0xBF rest
  else if b < 0xF4 then fourBytes (b.toNat % 8) 0x80 0xBF rest
  else if b = 0xF4 then fourBytes 4 0x80 0x8F rest
  else (.stray 1, rest)

/-- The pieces of a byte sequence; `fuel` is at least its length. -/
def piecesWithin : (fuel : Nat) → List UInt8 → List Piece
  | 0, _ => []
  | _, [] => []
  | fuel + 1, b :: rest =>
    let (piece, rest) := pieceAt b rest
    piece :: piecesWithin fuel rest

/-- The pieces of a byte sequence. -/
def pieces (bytes : List UInt8) : List Piece := piecesWithin bytes.length bytes

/-- The text in a byte sequence, with a replacement character for every stray piece. -/
def looseText (bytes : List UInt8) : String :=
  String.ofList <| (pieces bytes).map fun
    | .char c => c
    | .stray _ => replacement

/-- The characters of a byte sequence with every stray byte marked. -/
def symbols (bytes : List UInt8) : List (Option Char) :=
  (pieces bytes).flatMap fun
    | .char c => [some c]
    | .stray n => List.replicate n none

/-- The characters of a byte sequence, if no byte is stray. -/
def strictChars? (bytes : List UInt8) : Option (List Char) :=
  (pieces bytes).mapM fun
    | .char c => some c
    | .stray _ => none

end FunctionConsole.Text
