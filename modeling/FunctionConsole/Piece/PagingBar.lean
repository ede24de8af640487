import FunctionConsole.Canvas.Table
import FunctionConsole.Paging
import FunctionConsole.Piece.KeyHints

/-!
# Paging bar

Below a list: the rows that are shown, the page, and the keys that turn it. A table of one page has
the bar in the row below it.
-/

namespace FunctionConsole

namespace PageModel

/-- The bar of a page; an empty list has none. -/
def line? (p : PageModel) : Option Line := do
  let summary ← p.summary
  let enabled (on : Bool) : Style := if on then Theme.secondary else Theme.muted
  some
    { spans :=
        [{ text := " " ++ summary, style := Theme.secondary }, { text := "   " },
         { text := "Page " ++ toString p.currentPage.toNat ++ " of " ++ toString p.totalPages.toNat
           style := Theme.primary },
         { text := "   " }, keyChip "[", { text := " prev ", style := enabled p.hasPrev },
         keyChip "]", { text := " next ", style := enabled p.hasNext }, keyChip "+/-",
         { text := " " ++ toString p.limit.toNat ++ " per page", style := Theme.muted }] }

/-- Draws the bar of a page. -/
def drawBar (p : PageModel) (area : Rect) (b : Buffer) : Buffer :=
  match p.line? with
  | some l => b.drawLine area l
  | none => b

end PageModel

/-- The areas of something and of the bar below it. -/
def barAreas (area : Rect) : Rect × Rect :=
  let part := Layout.part (Layout.rows area [.min 1, .length 1])
  (part 0, part 1)

/-- Draws a table of one page. -/
def Table.drawPage (t : Table) (page : Pagination) (area : Rect) (b : Buffer) : Buffer :=
  let (table, bar) := barAreas area
  (PageModel.ofPagination page).drawBar bar (t.draw table b)

end FunctionConsole
