import FunctionConsole.Canvas.Buffer
import FunctionConsole.Recording.Field

/-!
# Pictures in recordings

How the cells of a screen stand in a recorded session: the text of each row without the blanks at
its end, and, if they are asked for, the looks of its cells.
-/

namespace FunctionConsole

/-- A byte as two digits of base 16. -/
def hexByte (b : UInt8) : List Char :=
  [Nat.digitChar (b.toNat / 16), Nat.digitChar (b.toNat % 16)].map Char.toUpper

/-- The recorded name of a colour. -/
def Color.record : Color → String
  | .reset => "Reset"
  | .black => "Black"
  | .red => "Red"
  | .green => "Green"
  | .yellow => "Yellow"
  | .blue => "Blue"
  | .cyan => "Cyan"
  | .gray => "Gray"
  | .darkGray => "DarkGray"
  | .white => "White"
  | .rgb r g b => String.ofList ('#' :: (hexByte r ++ hexByte g ++ hexByte b))

/-- The recorded names of the ways in which a cell stands out. -/
def Emphasis.record (e : Emphasis) : String :=
  let names :=
    [(e.bold, "BOLD"), (e.underlined, "UNDERLINED"), (e.reversed, "REVERSED"),
     (e.crossedOut, "CROSSED_OUT")].filter Prod.fst
  if names.isEmpty then "NONE" else String.intercalate " | " (names.map Prod.snd)

/-- Whether two cells look the same, whatever their text. -/
def Cell.sameLook (a b : Cell) : Bool := a.fg = b.fg ∧ a.bg = b.bg ∧ a.emphasis = b.emphasis

/-- Runs of neighbours that look the same, each with its length. -/
def Cell.runs : List Cell → List (Nat × Cell)
  | [] => []
  | c :: cs =>
    match runs cs with
    | (n, d) :: rest => if c.sameLook d then (n + 1, d) :: rest else (1, c) :: (n, d) :: rest
    | [] => [(1, c)]

namespace Buffer

/-- The cells of a row. -/
def rowCells (b : Buffer) (y : Nat) : List Cell := (List.range b.width).filterMap fun x => b.cell? x y

/-- The text of a row without the blanks at its end. -/
def rowText (b : Buffer) (y : Nat) : String :=
  let text := (b.rowCells y).flatMap Cell.text
  String.ofList (text.reverse.dropWhile (· == ' ')).reverse

/-- The looks of a row. -/
def rowLooks (b : Buffer) (y : Nat) : Json :=
  Json.listOf (fun (n, c) => .array [.nat n, .string c.fg.record, .string c.bg.record,
    .string c.emphasis.record]) (Cell.runs (b.rowCells y))

/-- A screen as the fields of a document. -/
def record (b : Buffer) (looks : Bool) : List (String × Json) :=
  let rows := List.range b.height
  ("lines", Json.texts (rows.map b.rowText)) ::
    if looks then [("styles", .array (rows.map b.rowLooks))] else []

end Buffer

end FunctionConsole
