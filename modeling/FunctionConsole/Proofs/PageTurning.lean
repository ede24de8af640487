import FunctionConsole.Proofs.PageNumbers

/-!
# Turning pages

A list is gone through by its pages. Whether there is a next page is told from page numbers, two
quotients of which one is rounded down and the other up, while the offset moves by rows; the total
is told anew with every key, so that it may grow and shrink in between.

`Aligned` is what makes the two agree: a page has room for a row and begins at a multiple of its
size, below the last word. Every key keeps it, whatever the total. On an aligned page there is a
next one exactly if rows come after this page (`Aligned.next_iff`), no sum is too large for a word,
and turning back undoes turning on. From it follows `pages_tile_list`: for a total that stays, the
pages from the first one on show every row once, in order.
-/

namespace FunctionConsole.PageState

-- ==================================================== vocabulary

/-- The next page with every sum checked. -/
def next? (p : PageState) (total : UInt64) : Option (PageState × Bool) := do
  let more ← (PageModel.make total p.limit p.offset).hasNext?
  if more then
    let offset ← sum? p.offset p.limit
    some ({ p with offset }, true)
  else some (p, false)

/-- What a key does to the page with every sum checked. Only the key for the next page adds words:
the page before is never less than the first, and the page sizes are chosen by their places. -/
def handleKey? (p : PageState) (key : Key) (total : UInt64) : Option (Option (PageState × Bool)) :=
  match key with
  | .char ']' => do
    let turned ← p.next? total
    some (some turned)
  | _ => some (p.handleKey key total)

/-- The page after a key, pressed while the list has a total. A key that is not for pages leaves it.
-/
def pressed (p : PageState) (press : Key × UInt64) : PageState :=
  ((p.handleKey press.1 press.2).map Prod.fst).getD p

/-- The rows on a page of a list, by their numbers from 0. -/
def rows (total : UInt64) (p : PageState) : List Nat :=
  let stop := min (p.offset.toNat + p.limit.toNat) total.toNat
  List.range' p.offset.toNat (stop - p.offset.toNat)

/-- The pages that are visited by asking for the next one until there is none. -/
inductive Visits (total : UInt64) : PageState → List PageState → Prop
  | last {p : PageState} : (p.next total).2 = false → Visits total p [p]
  | turn {p : PageState} {pages : List PageState} :
      (p.next total).2 = true → Visits total (p.next total).1 pages → Visits total p (p :: pages)

/-- A page that has room for a row and begins at a multiple of its size, below the last word. -/
structure Aligned (p : PageState) : Prop where
  limit_pos : 1 ≤ p.limit.toNat
  limit_dvd : p.limit.toNat ∣ p.offset.toNat
  offset_lt : p.offset.toNat + 1 < UInt64.size

-- ==================================================== one key

variable {p : PageState} {total : UInt64}

theorem aligned_at_start {limit : UInt64} (h : 1 ≤ limit.toNat) :
    Aligned { limit, offset := 0 } where
  limit_pos := h
  limit_dvd := Nat.dvd_zero _
  offset_lt := by
    show 0 + 1 < UInt64.size
    decide

theorem aligned_first (limit : UInt64) : Aligned (first limit) := by
  apply aligned_at_start
  rw [UInt64.toNat_max]
  exact Nat.le_max_right _ _

theorem make_of_aligned (h : p.Aligned) :
    PageModel.make total p.limit p.offset = { total, limit := p.limit, offset := p.offset } := by
  have hlimit : max p.limit 1 = p.limit := by
    rw [← UInt64.toNat_inj, UInt64.toNat_max]
    exact Nat.max_eq_left h.limit_pos
  rw [PageModel.make, hlimit]

/-- On an aligned page the page numbers are words, and tell whether rows come after the page. -/
theorem Aligned.hasNext (h : p.Aligned) :
    let m := PageModel.make total p.limit p.offset
    m.hasNext? = some m.hasNext ∧
      (m.hasNext = true ↔ p.offset.toNat + p.limit.toNat < total.toNat) := by
  intro m
  have hm : m = { total, limit := p.limit, offset := p.offset } := make_of_aligned h
  have hquotient : p.offset.toNat / p.limit.toNat + 1 < UInt64.size :=
    Nat.lt_of_le_of_lt (Nat.succ_le_succ (Nat.div_le_self _ _)) h.offset_lt
  obtain ⟨hcurrent?, hcurrent⟩ : m.currentPage? = some m.currentPage ∧
      m.currentPage.toNat = p.offset.toNat / p.limit.toNat + 1 := by
    rw [hm]
    exact PageModel.currentPage?_eq h.limit_pos hquotient
  obtain ⟨hpages?, hpages⟩ : m.totalPages? = some m.totalPages ∧
      m.totalPages.toNat = total.toNat ⌈/⌉ p.limit.toNat := by
    rw [hm]
    exact PageModel.totalPages?_eq h.limit_pos
  refine ⟨by rw [PageModel.hasNext?, hcurrent?, hpages?]; rfl, ?_⟩
  -- the end of the page is a multiple of its size, like its beginning
  obtain ⟨k, hk⟩ := h.limit_dvd
  have hend : p.limit.toNat * (k + 1) = p.offset.toNat + p.limit.toNat := by rw [hk]; rfl
  rw [PageModel.hasNext, decide_eq_true_iff, UInt64.lt_iff_toNat_lt, hcurrent, hpages, hk,
    Nat.mul_div_cancel_left k h.limit_pos, ← Nat.not_le, ceilDiv_le_iff_le_mul h.limit_pos, hend,
    Nat.not_le, ← hk]

/-- There is a next page exactly if rows come after this one. -/
theorem Aligned.next_iff (h : p.Aligned) :
    (p.next total).2 = true ↔ p.offset.toNat + p.limit.toNat < total.toNat := by
  rw [← h.hasNext.2, next]
  split
  · next hmore => simp [hmore]
  · next hmore => simp [hmore]

theorem Aligned.none_after_last (h : p.Aligned) (hlast : (p.next total).2 = false) :
    ¬ p.offset.toNat + p.limit.toNat < total.toNat := by
  rw [← h.next_iff, hlast]
  exact Bool.false_ne_true

theorem Aligned.next_eq (h : p.Aligned) (hmore : p.offset.toNat + p.limit.toNat < total.toNat) :
    p.next total = ({ p with offset := p.offset + p.limit }, true) :=
  if_pos (h.hasNext.2.mpr hmore)

theorem Aligned.next_eq_of_last (h : p.Aligned)
    (hlast : ¬ p.offset.toNat + p.limit.toNat < total.toNat) : p.next total = (p, false) :=
  if_neg (mt h.hasNext.2.mp hlast)

/-- The sum of the words is that of the numbers, since it is less than the total. -/
theorem toNat_next (hmore : p.offset.toNat + p.limit.toNat < total.toNat) :
    p.offset.toNat + p.limit.toNat < UInt64.size ∧
      (p.offset + p.limit).toNat = p.offset.toNat + p.limit.toNat := by
  have hfits : p.offset.toNat + p.limit.toNat < UInt64.size :=
    Nat.lt_trans hmore total.toNat_lt
  exact ⟨hfits, toNat_add_of_fits hfits⟩

theorem Aligned.turned (h : p.Aligned) (hmore : p.offset.toNat + p.limit.toNat < total.toNat) :
    Aligned { p with offset := p.offset + p.limit } where
  limit_pos := h.limit_pos
  limit_dvd := by
    rw [(toNat_next hmore).2]
    exact Nat.dvd_add h.limit_dvd (Nat.dvd_refl _)
  offset_lt := by
    have htotal : total.toNat < UInt64.size := total.toNat_lt
    rw [(toNat_next hmore).2]
    omega

theorem Aligned.next (h : p.Aligned) (total : UInt64) : (p.next total).1.Aligned := by
  by_cases hmore : p.offset.toNat + p.limit.toNat < total.toNat
  · rw [h.next_eq hmore]
    exact h.turned hmore
  · rw [h.next_eq_of_last hmore]
    exact h

theorem Aligned.prev (h : p.Aligned) : p.prev.1.Aligned := by
  rw [PageState.prev]
  split
  · exact h
  · dsimp only
    split
    · exact aligned_at_start h.limit_pos
    · next hlt =>
      have hle : p.limit ≤ p.offset := by
        rw [UInt64.le_iff_toNat_le] at hlt ⊢
        omega
      have hback : (p.offset - p.limit).toNat = p.offset.toNat - p.limit.toNat :=
        UInt64.toNat_sub_of_le _ _ hle
      refine ⟨h.limit_pos, ?_, ?_⟩
      · show p.limit.toNat ∣ (p.offset - p.limit).toNat
        rw [hback]
        exact Nat.dvd_sub h.limit_dvd (Nat.dvd_refl _)
      · show (p.offset - p.limit).toNat + 1 < UInt64.size
        have hlt := h.offset_lt
        omega

/-- Turning back after turning on comes to the same page. -/
theorem Aligned.prev_turned (h : p.Aligned)
    (hmore : p.offset.toNat + p.limit.toNat < total.toNat) :
    PageState.prev { p with offset := p.offset + p.limit } = (p, true) := by
  have hsum := (toNat_next hmore).2
  have hpos := h.limit_pos
  have hne : p.offset + p.limit ≠ 0 := by
    intro hzero
    rw [hzero] at hsum
    have hnone : (0 : UInt64).toNat = 0 := rfl
    omega
  rw [PageState.prev, if_neg hne]
  dsimp only
  have hback : (if p.offset + p.limit ≤ p.limit then 0 else p.offset + p.limit - p.limit) =
      p.offset := by
    split
    · next hle =>
      rw [UInt64.le_iff_toNat_le] at hle
      rw [← UInt64.toNat_inj]
      show 0 = p.offset.toNat
      omega
    · exact UInt64.add_sub_cancel _ _
  rw [hback]

theorem mem_pageSizes {limit : UInt64} (h : limit ∈ pageSizes) : 1 ≤ limit.toNat := by
  have hall : (pageSizes.all fun size => 1 ≤ size.toNat) = true := rfl
  exact of_decide_eq_true (List.all_eq_true.mp hall limit h)

/-- A new page size is one of those to choose from, and starts at the first page. -/
theorem cycleLimit_eq (p : PageState) (forward : Bool) :
    (p.cycleLimit forward).offset = 0 ∧ (p.cycleLimit forward).limit ∈ pageSizes := by
  refine ⟨rfl, ?_⟩
  rw [cycleLimit]
  dsimp only
  generalize hj : (if forward = true then (sizeIndex p.limit + 1) % pageSizes.length
    else (sizeIndex p.limit + pageSizes.length - 1) % pageSizes.length) = j
  have hlt : j < pageSizes.length := by
    rw [← hj]
    split <;> exact Nat.mod_lt _ (by decide)
  rw [List.getElem?_eq_getElem hlt]
  exact List.getElem_mem hlt

theorem aligned_cycleLimit (p : PageState) (forward : Bool) : (p.cycleLimit forward).Aligned :=
  aligned_at_start (mem_pageSizes (p.cycleLimit_eq forward).2)

/-- What a key does is one of four things. -/
theorem pressed_cases (p : PageState) (press : Key × UInt64) :
    p.pressed press = p ∨ p.pressed press = p.prev.1 ∨ p.pressed press = (p.next press.2).1 ∨
      ∃ forward, p.pressed press = p.cycleLimit forward := by
  unfold pressed handleKey
  split
  · exact .inr (.inl rfl)
  · exact .inr (.inr (.inl rfl))
  · exact .inr (.inr (.inr ⟨true, rfl⟩))
  · exact .inr (.inr (.inr ⟨true, rfl⟩))
  · exact .inr (.inr (.inr ⟨false, rfl⟩))
  · exact .inl rfl

theorem Aligned.pressed (h : p.Aligned) (press : Key × UInt64) : (p.pressed press).Aligned := by
  rcases p.pressed_cases press with heq | heq | heq | ⟨forward, heq⟩
  · rw [heq]; exact h
  · rw [heq]; exact h.prev
  · rw [heq]; exact h.next press.2
  · rw [heq]; exact p.aligned_cycleLimit forward

theorem Aligned.next?_eq (h : p.Aligned) (total : UInt64) :
    p.next? total = some (p.next total) := by
  rw [next?, h.hasNext.1, PageState.next]
  by_cases hmore : p.offset.toNat + p.limit.toNat < total.toNat
  · have hnext := h.hasNext.2.mpr hmore
    rw [hnext, sum?_eq_some (toNat_next hmore).1]
    rfl
  · have hnext : (PageModel.make total p.limit p.offset).hasNext = false :=
      Bool.eq_false_iff.mpr (mt h.hasNext.2.mp hmore)
    rw [hnext]
    rfl

theorem Aligned.handleKey?_eq (h : p.Aligned) (key : Key) (total : UInt64) :
    p.handleKey? key total = some (p.handleKey key total) := by
  unfold handleKey?
  split
  · rw [h.next?_eq]
    rfl
  · rfl

-- ==================================================== many keys

theorem aligned_after (limit : UInt64) (presses : List (Key × UInt64)) :
    (presses.foldl pressed (first limit)).Aligned := by
  have hrun : ∀ p : PageState, p.Aligned → (presses.foldl PageState.pressed p).Aligned := by
    induction presses with
    | nil => exact fun p hp => hp
    | cons press presses ih => exact fun p hp => ih _ (hp.pressed press)
  exact hrun _ (aligned_first limit)

/-- Asking for the next page comes to an end. -/
theorem Aligned.exists_visits (h : p.Aligned) (total : UInt64) : ∃ pages, Visits total p pages := by
  -- a page that is turned takes rows from those that are left
  induction hleft : total.toNat - p.offset.toNat using Nat.strong_induction_on generalizing p with
  | h left ih =>
      by_cases hmore : p.offset.toNat + p.limit.toNat < total.toNat
      · have hpos := h.limit_pos
        have hsum := (toNat_next hmore).2
        have hnext := h.next_eq hmore
        have hless : total.toNat - (p.offset + p.limit).toNat < left := by omega
        obtain ⟨pages, hvisits⟩ := ih _ hless (h.turned hmore) rfl
        refine ⟨p :: pages, .turn ?_ ?_⟩
        · rw [hnext]
        · rw [hnext]
          exact hvisits
      · refine ⟨[p], .last ?_⟩
        rw [h.next_eq_of_last hmore]

theorem rows_ne_nil (h : p.Aligned) (hlt : p.offset.toNat < total.toNat) : p.rows total ≠ [] := by
  have hpos := h.limit_pos
  rw [rows, List.range'_ne_nil_iff]
  omega

/-- From an aligned page on, up to the end of the list, the pages show the rows that are left, each
once and in order; none of them is empty unless nothing is left. -/
theorem Visits.rows_eq {pages : List PageState} (hvisits : Visits total p pages) (h : p.Aligned)
    (hle : p.offset.toNat ≤ total.toNat) :
    pages.flatMap (rows total) = List.range' p.offset.toNat (total.toNat - p.offset.toNat) ∧
      (p.offset.toNat < total.toNat → ∀ q ∈ pages, q.rows total ≠ []) := by
  induction hvisits with
  | @last p hlast =>
      have hnone := h.none_after_last hlast
      constructor
      · rw [List.flatMap_singleton, rows, Nat.min_eq_right (by omega)]
      · intro hlt q hq
        rw [List.mem_singleton.mp hq]
        exact rows_ne_nil h hlt
  | @turn p pages hturned _ ih =>
      have hmore := h.next_iff.mp hturned
      have hsum := (toNat_next hmore).2
      rw [h.next_eq hmore] at ih
      dsimp only at ih
      rw [hsum] at ih
      obtain ⟨hrows, hfull⟩ := ih (h.turned hmore) (Nat.le_of_lt hmore)
      constructor
      · rw [List.flatMap_cons, hrows, rows, Nat.min_eq_left (Nat.le_of_lt hmore),
          Nat.add_sub_cancel_left,
          show total.toNat - p.offset.toNat =
            p.limit.toNat + (total.toNat - (p.offset.toNat + p.limit.toNat)) by omega,
          ← List.range'_append, Nat.one_mul]
      · intro hlt q hq
        rcases List.mem_cons.mp hq with rfl | hq
        · exact rows_ne_nil h hlt
        · exact hfull hmore q hq

/-- Whatever keys are pressed, with whatever totals: a page has room for a row and begins at a
multiple of its size, and no key meets a sum that is too large for a word. The next page is there
exactly if rows come after this one; it is one page size further, and turning back from it comes to
this page. A new page size is one of those to choose from, and starts at the first page. From the
first page on, while the total stays, asking for the next page comes to an end, and the pages show
every row of the list once, in order, none of them empty if the list is not. -/
theorem pages_tile_list (limit : UInt64) (presses : List (Key × UInt64)) :
    let p := presses.foldl pressed (first limit)
    (1 ≤ p.limit.toNat ∧ p.limit.toNat ∣ p.offset.toNat) ∧
    (∀ key total, p.handleKey? key total = some (p.handleKey key total)) ∧
    (∀ total, (p.next total).2 = true ↔ p.offset.toNat + p.limit.toNat < total.toNat) ∧
    (∀ total, (p.next total).2 = true →
      (p.next total).1.limit = p.limit ∧
        (p.next total).1.offset.toNat = p.offset.toNat + p.limit.toNat ∧
        (p.next total).1.prev = (p, true)) ∧
    (∀ total, (p.next total).2 = false → (p.next total).1 = p) ∧
    (∀ forward, (p.cycleLimit forward).offset = 0 ∧ (p.cycleLimit forward).limit ∈ pageSizes) ∧
    (∀ total, p.offset = 0 → (∃ pages, Visits total p pages) ∧
      ∀ pages, Visits total p pages → pages.flatMap (rows total) = List.range total.toNat ∧
        (0 < total.toNat → ∀ q ∈ pages, q.rows total ≠ [])) := by
  intro p
  have h : p.Aligned := aligned_after limit presses
  refine ⟨⟨h.limit_pos, h.limit_dvd⟩, h.handleKey?_eq, fun total => h.next_iff, ?_, ?_,
    p.cycleLimit_eq, ?_⟩
  · intro total hturned
    have hmore := h.next_iff.mp hturned
    rw [h.next_eq hmore]
    exact ⟨rfl, (toNat_next hmore).2, h.prev_turned hmore⟩
  · intro total hlast
    rw [h.next_eq_of_last (h.none_after_last hlast)]
  · intro total hzero
    have hstart : p.offset.toNat = 0 := by rw [hzero]; rfl
    refine ⟨h.exists_visits total, fun pages hvisits => ?_⟩
    have hrows := hvisits.rows_eq h (by omega)
    rw [hstart] at hrows
    rw [List.range_eq_range']
    exact hrows

end FunctionConsole.PageState
