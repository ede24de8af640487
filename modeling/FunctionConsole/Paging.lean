import FunctionConsole.Key
import FunctionConsole.Resource.Listing

/-!
# Paging

Lists are shown a page at a time, by a limit and an offset in unsigned words of 64 bits.
`PageState` is the page that a screen asks for; `PageModel` derives the page numbers and the summary
from a block that the server sent. A limit of 0 counts as 1.
-/

namespace FunctionConsole

/-- The page sizes to choose from. -/
def pageSizes : List UInt64 := [10, 20, 50]

/-- A page of a list with a known total; the limit is at least 1. -/
structure PageModel where
  total : UInt64
  limit : UInt64
  offset : UInt64
  deriving DecidableEq, Repr, Inhabited

namespace PageModel

/-- The page with the given numbers. -/
def make (total limit offset : UInt64) : PageModel := { total, limit := max limit 1, offset }

/-- The page of a block that the server sent. -/
def ofPagination (p : Pagination) : PageModel := make p.total p.limit p.offset

/-- The number of the page, from 1. -/
def currentPage (p : PageModel) : UInt64 := p.offset / p.limit + 1

/-- How many pages there are. -/
def totalPages (p : PageModel) : UInt64 :=
  if p.total % p.limit = 0 then p.total / p.limit else p.total / p.limit + 1

/-- The number of the first row on the page, from 1. -/
def start (p : PageModel) : UInt64 := p.offset + 1

/-- The number of the last row on the page. -/
def stop (p : PageModel) : UInt64 := min (p.offset + p.limit) p.total

/-- Whether a page comes before this one. -/
def hasPrev (p : PageModel) : Bool := p.currentPage > 1

/-- Whether a page comes after this one. -/
def hasNext (p : PageModel) : Bool := p.currentPage < p.totalPages

/-- The rows shown, in words; none for an empty list. -/
def summary (p : PageModel) : Option String :=
  if p.total = 0 then none
  else some ("Showing " ++ toString p.start.toNat ++ " to " ++ toString p.stop.toNat ++ " of " ++
    toString p.total.toNat ++ " results")

end PageModel

/-- The page that a screen asks for. -/
structure PageState where
  limit : UInt64
  offset : UInt64
  deriving DecidableEq, Repr, Inhabited

namespace PageState

/-- The first page with a limit of at least 1. -/
def first (limit : UInt64) : PageState := { limit := max limit 1, offset := 0 }

/-- The next page, if there are more rows; says whether the page changed. -/
def next (p : PageState) (total : UInt64) : PageState × Bool :=
  if (PageModel.make total p.limit p.offset).hasNext then
    ({ p with offset := p.offset + p.limit }, true)
  else (p, false)

/-- The page before, unless this is the first; says whether the page changed. -/
def prev (p : PageState) : PageState × Bool :=
  if p.offset = 0 then (p, false)
  else ({ p with offset := if p.offset ≤ p.limit then 0 else p.offset - p.limit }, true)

/-- The position of a limit among the page sizes; one that is not listed counts as the second. -/
def sizeIndex (limit : UInt64) : Nat := (pageSizes.findIdx? fun o => o = limit).getD 1

/-- The first page with the next or the previous page size. -/
def cycleLimit (p : PageState) (forward : Bool) : PageState :=
  let i := sizeIndex p.limit
  let n := pageSizes.length
  let j := if forward then (i + 1) % n else (i + n - 1) % n
  { limit := (pageSizes[j]?).getD p.limit, offset := 0 }

/-- What a key does to the page: the square brackets turn pages, plus and minus change the page
size. The flag says whether the page has to be asked for; none stands for any other key. -/
def handleKey (p : PageState) (key : Key) (total : UInt64) : Option (PageState × Bool) :=
  match key with
  | .char '[' => some p.prev
  | .char ']' => some (p.next total)
  | .char '+' | .char '=' => some (p.cycleLimit true, true)
  | .char '-' => some (p.cycleLimit false, true)
  | _ => none

end PageState

end FunctionConsole
