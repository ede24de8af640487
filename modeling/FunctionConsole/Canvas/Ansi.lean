import FunctionConsole.Canvas.Buffer
import FunctionConsole.Text.Width

/-!
# Screens for a terminal

The cells of a screen as a text with the control sequences that terminals know for colours and
emphasis.
-/

namespace FunctionConsole

/-- A control sequence that selects a look by its numbers. -/
def selectLook (numbers : List Nat) : List Char :=
  '\x1b' :: '[' :: (String.intercalate ";" (numbers.map toString)).toList ++ ['m']

/-- The numbers of a colour, those of the text or those of the ground. -/
def Color.numbers (ground : Bool) : Color → List Nat
  | .reset => plain 39
  | .black => plain 30
  | .red => plain 31
  | .green => plain 32
  | .yellow => plain 33
  | .blue => plain 34
  | .cyan => plain 36
  | .gray => plain 37
  | .darkGray => plain 90
  | .white => plain 97
  | .rgb r g b => plain 38 ++ [2, r.toNat, g.toNat, b.toNat]
where
  plain (n : Nat) : List Nat := [if ground then n + 10 else n]

/-- The numbers of an emphasis. -/
def Emphasis.numbers (e : Emphasis) : List Nat :=
  [(e.bold, 1), (e.underlined, 4), (e.reversed, 7), (e.crossedOut, 9)].filterMap
    fun (on, n) => if on then some n else none

/-- A cell with its look. -/
def Cell.ansi (c : Cell) : List Char :=
  selectLook (0 :: c.emphasis.numbers ++ c.fg.numbers false ++ c.bg.numbers true) ++ c.text

/-- The cells of a row; those that a wide cell hides are left out. -/
def Cell.rowAnsi : (hidden : Nat) → List Cell → List Char
  | _, [] => []
  | n + 1, _ :: cs => rowAnsi n cs
  | 0, c :: cs => c.ansi ++ rowAnsi (Text.width c.text - 1) cs

/-- A screen from the upper left corner of the terminal on. -/
def Buffer.ansi (b : Buffer) : String :=
  let row (y : Nat) : List Char :=
    Cell.rowAnsi 0 ((List.range b.width).filterMap fun x => b.cell? x y)
  String.ofList (['\x1b', '[', 'H'] ++
    List.intercalate (selectLook [0] ++ ['\r', '\n']) ((List.range b.height).map row) ++
    selectLook [0] ++ ['\n'])

end FunctionConsole
