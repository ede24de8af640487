import FunctionConsole.Paging
import Mathlib.Algebra.Order.Floor.Div

/-!
# Page numbers

The server says where a page stands in its list: how many rows there are, how many a page has, and
how many come before this one. The block is not checked, and the numbers that are shown for it are
computed in words of 64 bits, which a sum may not fit into.

Each number is said here once more with its sums and quotients checked, as a function without a
result where one of them has none (`currentPage?`, `stop?`). How many pages there are always has
one; where the page begins and ends has one as long as the list could go on to the end of the page
(`page_counts_rows`).
-/

namespace FunctionConsole

-- ==================================================== checked words

/-- The sum of two words, unless it takes more than 64 bits. -/
def sum? (a b : UInt64) : Option UInt64 :=
  if a.toNat + b.toNat < UInt64.size then some (a + b) else none

/-- The quotient of two words, unless the divisor is 0. -/
def quotient? (a b : UInt64) : Option UInt64 := if b = 0 then none else some (a / b)

section

variable {a b : UInt64}

theorem sum?_eq_some (h : a.toNat + b.toNat < UInt64.size) : sum? a b = some (a + b) := if_pos h

theorem toNat_add_of_fits (h : a.toNat + b.toNat < UInt64.size) :
    (a + b).toNat = a.toNat + b.toNat := by
  rw [UInt64.toNat_add]
  exact Nat.mod_eq_of_lt h

theorem quotient?_eq_some (h : 1 ≤ b.toNat) : quotient? a b = some (a / b) := by
  apply if_neg
  rintro rfl
  exact absurd h (by decide)

end

namespace PageModel

-- ==================================================== checked numbers

def currentPage? (p : PageModel) : Option UInt64 := do
  sum? (← quotient? p.offset p.limit) 1

def totalPages? (p : PageModel) : Option UInt64 := do
  let pages ← quotient? p.total p.limit
  if p.total % p.limit = 0 then some pages else sum? pages 1

def start? (p : PageModel) : Option UInt64 := sum? p.offset 1

def stop? (p : PageModel) : Option UInt64 := do
  let stop ← sum? p.offset p.limit
  some (min stop p.total)

def hasNext? (p : PageModel) : Option Bool := do
  let current ← p.currentPage?
  let pages ← p.totalPages?
  some (current < pages)

/-- The words that say which rows are shown. -/
def showing (first last total : Nat) : String :=
  "Showing " ++ toString first ++ " to " ++ toString last ++ " of " ++ toString total ++ " results"

def summary? (p : PageModel) : Option (Option String) :=
  if p.total = 0 then some none
  else do
    let start ← p.start?
    let stop ← p.stop?
    some (some (showing start.toNat stop.toNat p.total.toNat))

-- ==================================================== their values

variable {p : PageModel}

theorem one_le_limit_make (total limit offset : UInt64) :
    1 ≤ (make total limit offset).limit.toNat := by
  show 1 ≤ (max limit 1).toNat
  rw [UInt64.toNat_max]
  exact Nat.le_max_right _ _

theorem toNat_limit_make (total limit offset : UInt64) :
    (make total limit offset).limit.toNat = max limit.toNat 1 :=
  UInt64.toNat_max limit 1

theorem currentPage?_eq (hlimit : 1 ≤ p.limit.toNat)
    (h : p.offset.toNat / p.limit.toNat + 1 < UInt64.size) :
    p.currentPage? = some p.currentPage ∧
      p.currentPage.toNat = p.offset.toNat / p.limit.toNat + 1 := by
  have hfits : (p.offset / p.limit).toNat + (1 : UInt64).toNat < UInt64.size := by
    rw [UInt64.toNat_div]
    exact h
  constructor
  · rw [currentPage?, quotient?_eq_some hlimit]
    exact sum?_eq_some hfits
  · rw [currentPage, toNat_add_of_fits hfits, UInt64.toNat_div]
    rfl

/-- A quotient rounded up is the next one, unless nothing remains. -/
theorem ceilDiv_eq {n d : Nat} (hd : 1 ≤ d) :
    n ⌈/⌉ d = if n % d = 0 then n / d else n / d + 1 := by
  have hsplit : d * (n / d) + n % d = n := Nat.div_add_mod n d
  have hlt : n % d < d := Nat.mod_lt n hd
  rw [Nat.ceilDiv_eq_add_pred_div]
  split
  · apply Nat.div_eq_of_lt_le
    · rw [Nat.mul_comm]
      omega
    · rw [Nat.add_mul, Nat.mul_comm]
      omega
  · apply Nat.div_eq_of_lt_le
    · rw [Nat.add_mul, Nat.mul_comm]
      omega
    · rw [Nat.add_mul, Nat.add_mul, Nat.mul_comm]
      omega

/-- However many rows there are, the number of pages is a word; it is the quotient of the rows and
the size of a page, rounded up. -/
theorem totalPages?_eq (hlimit : 1 ≤ p.limit.toNat) :
    p.totalPages? = some p.totalPages ∧
      p.totalPages.toNat = p.total.toNat ⌈/⌉ p.limit.toNat := by
  have hrest : p.total % p.limit = 0 ↔ p.total.toNat % p.limit.toNat = 0 := by
    rw [← UInt64.toNat_inj, UInt64.toNat_mod]
    rfl
  rw [totalPages?, totalPages, quotient?_eq_some hlimit, ceilDiv_eq hlimit, Option.bind_eq_bind,
    Option.bind_some]
  by_cases hzero : p.total.toNat % p.limit.toNat = 0
  · rw [if_pos (hrest.mpr hzero), if_pos (hrest.mpr hzero), if_pos hzero]
    exact ⟨rfl, UInt64.toNat_div _ _⟩
  · -- with a remainder there are more rows than full pages, so that one more page is a word too
    have hfits : (p.total / p.limit).toNat + (1 : UInt64).toNat < UInt64.size := by
      have hsplit : p.limit.toNat * (p.total.toNat / p.limit.toNat) +
          p.total.toNat % p.limit.toNat = p.total.toNat := Nat.div_add_mod _ _
      have hle : 1 * (p.total.toNat / p.limit.toNat) ≤
          p.limit.toNat * (p.total.toNat / p.limit.toNat) := Nat.mul_le_mul_right _ hlimit
      have hlt : p.total.toNat < UInt64.size := p.total.toNat_lt
      rw [UInt64.toNat_div]
      show p.total.toNat / p.limit.toNat + 1 < UInt64.size
      omega
    rw [if_neg (mt hrest.mp hzero), if_neg (mt hrest.mp hzero), if_neg hzero,
      sum?_eq_some hfits, toNat_add_of_fits hfits, UInt64.toNat_div]
    exact ⟨rfl, rfl⟩

theorem start?_eq (h : p.offset.toNat + 1 < UInt64.size) :
    p.start? = some p.start ∧ p.start.toNat = p.offset.toNat + 1 :=
  ⟨sum?_eq_some h, toNat_add_of_fits h⟩

theorem stop?_eq (h : p.offset.toNat + p.limit.toNat < UInt64.size) :
    p.stop? = some p.stop ∧
      p.stop.toNat = min (p.offset.toNat + p.limit.toNat) p.total.toNat := by
  rw [stop?, sum?_eq_some h, stop, UInt64.toNat_min, toNat_add_of_fits h]
  exact ⟨rfl, rfl⟩

theorem summary_eq : p.summary =
    if p.total = 0 then none else some (showing p.start.toNat p.stop.toNat p.total.toNat) := rfl

theorem summary?_eq (hlimit : 1 ≤ p.limit.toNat)
    (h : p.offset.toNat + p.limit.toNat < UInt64.size) : p.summary? = some p.summary := by
  rw [summary?, summary_eq, (start?_eq (by omega)).1, (stop?_eq h).1]
  split
  · rfl
  · rfl

-- ==================================================== a block of the server

/-- The numbers that are shown for a block, whatever the server sent. Each is computed without
overflow where the sum in it is a word: the number of pages always, and all of them if the rows
could go on to the end of the page. The summary then names a first row and a last one between 1 and
the total, and counts upwards exactly if the page begins before the end of the list. -/
theorem page_counts_rows (b : Pagination) :
    let p := ofPagination b
    p.limit.toNat = max b.limit.toNat 1 ∧
    (p.totalPages? = some p.totalPages ∧
      p.totalPages.toNat = b.total.toNat ⌈/⌉ p.limit.toNat) ∧
    (b.offset.toNat / p.limit.toNat + 1 < UInt64.size →
      p.currentPage? = some p.currentPage ∧
        p.currentPage.toNat = b.offset.toNat / p.limit.toNat + 1) ∧
    (b.offset.toNat + 1 < UInt64.size →
      p.start? = some p.start ∧ p.start.toNat = b.offset.toNat + 1) ∧
    (b.offset.toNat + p.limit.toNat < UInt64.size →
      (p.stop? = some p.stop ∧
        p.stop.toNat = min (b.offset.toNat + p.limit.toNat) b.total.toNat) ∧
      p.summary? = some p.summary ∧
      (0 < b.total.toNat → ∃ first last,
        p.summary = some (showing first last b.total.toNat) ∧
          1 ≤ first ∧ last ≤ b.total.toNat ∧ (first ≤ last ↔ b.offset.toNat < b.total.toNat))) := by
  intro p
  have hlimit : 1 ≤ p.limit.toNat := one_le_limit_make _ _ _
  refine ⟨toNat_limit_make _ _ _, totalPages?_eq hlimit, currentPage?_eq hlimit,
    fun hfits => start?_eq hfits,
    fun hfits => ⟨stop?_eq hfits, summary?_eq hlimit hfits, fun hsome => ?_⟩⟩
  have hfirst : b.offset.toNat + 1 < UInt64.size := by omega
  have hstart : p.start.toNat = b.offset.toNat + 1 := (start?_eq hfirst).2
  have hstop : p.stop.toNat = min (b.offset.toNat + p.limit.toNat) b.total.toNat :=
    (stop?_eq hfits).2
  have htotal : b.total ≠ 0 := by
    intro hzero
    rw [hzero] at hsome
    exact absurd hsome (by decide)
  refine ⟨p.start.toNat, p.stop.toNat, if_neg htotal, ?_, ?_, ?_⟩
  · omega
  · omega
  · rw [hstart, hstop]
    omega

/-- Rows were deleted, so that the page begins behind the end of the list: its rows are counted
downwards. And an offset that no list of rows has: the first row of the page has no number. -/
theorem rows_counted_downwards :
    let past := ofPagination ⟨5, 20, 40⟩
    let last := ofPagination ⟨10, 20, 18446744073709551615⟩
    past.summary = some "Showing 41 to 5 of 5 results" ∧ past.stop < past.start ∧
      last.start? = none ∧ last.stop? = none ∧ last.summary? = none ∧
      ¬ ∀ b : Pagination, 0 < b.total.toNat →
        (ofPagination b).summary? = some (ofPagination b).summary ∧
          (ofPagination b).start ≤ (ofPagination b).stop := by
  refine ⟨by decide, by decide, by decide, by decide, by decide, fun hall => ?_⟩
  obtain ⟨-, hle⟩ := hall ⟨5, 20, 40⟩ (by decide)
  exact absurd hle (by decide)

end PageModel

end FunctionConsole
