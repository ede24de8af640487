import FunctionConsole.Piece.Badge
import FunctionConsole.Piece.PagingBar
import FunctionConsole.Piece.Placeholder
import FunctionConsole.Screen.Functions

/-!
# The list of functions, drawn
-/

namespace FunctionConsole.FunctionsScreen

/-- The row of a function. -/
def row (f : Function) : List Line :=
  [.ofText f.name Theme.strong,
   match f.descriptionText with
    | some d => .ofText d Theme.secondary
    | none => .ofText "No description" Theme.muted,
   .ofSpan (Badge.ofDisabled f.disabled).span,
   .ofSpan (Badge.ofVersion f.versionLabel).span]

/-- The table of a page of functions. -/
def table (fs : List Function) (selected : Nat) : Table :=
  { header := ["Name", "Description", "Status", "Version"]
    widths := [.percentage 30, .fill 1, .length 10, .length 8]
    rows := fs.map row
    selected := some selected }

/-- Draws a page of functions. -/
def drawList (list : FunctionList) (selected : Nat) (area : Rect) (b : Buffer) : Buffer :=
  if list.rows.isEmpty then
    Card.drawMessage { title := "Functions" }
      "No functions yet. Create your first function to get started." area b
  else
    let card : Card :=
      { title := "Functions"
        subtitle := some (toString list.pagination.total.toNat ++ " functions") }
    (table list.rows selected).drawPage list.pagination (card.inner area) (card.draw area b)

/-- Draws the screen. -/
def draw (s : FunctionsScreen) : Rect → Buffer → Buffer :=
  s.functions.draw "functions"
    (Card.drawMessage { title := "Functions", tone := .danger } "Functions not found")
    (fun list => drawList list s.selected)

end FunctionConsole.FunctionsScreen
