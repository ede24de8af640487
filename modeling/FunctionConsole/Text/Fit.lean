import FunctionConsole.Text.Width

/-!
# Fitting text into cells

A text that is too wide is cut, and an ellipsis says so; a text that is too narrow is filled up with
spaces.
-/

namespace FunctionConsole.Text

/-- The mark at the end of a text that is cut. -/
def ellipsis : Char := '…'

/-- The first characters of a text that leave a cell free, given how many cells are taken. -/
def fitting (max : Nat) : (taken : Nat) → List Char → List Char
  | _, [] => []
  | taken, c :: cs =>
    if taken + charWidth c + 1 > max then [] else c :: fitting max (taken + charWidth c) cs

/-- A text within so many cells. -/
def truncate (cs : List Char) (max : Nat) : List Char :=
  if width cs ≤ max then cs
  else if max = 0 then []
  else fitting max 0 cs ++ [ellipsis]

/-- A text cut or filled up to so many cells. -/
def padRight (cs : List Char) (cells : Nat) : List Char :=
  let t := truncate cs cells
  t ++ List.replicate (cells - width t) ' '

end FunctionConsole.Text
