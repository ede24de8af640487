import FunctionConsole.TickClock
import Mathlib.Data.List.Chain

/-!
# The pace of ticks

Whether a tick is due is asked when a wait for input is over, so at moments that the keys decide. A
tick starts the next period at the moment it is asked for, not at the one at which it became due:
what it is late is never made up for, and ticks fall behind a steady beat.

They fall behind by a bounded time. After a tick the clock says no until a whole rate has passed
(`ticks_apart`), and the first question after that comes no later than the longest wait between two
questions (`ticks_soon`). So as long as questions are asked, a tick comes in every stretch of time
as long as the rate and the longest wait together, and `div_le_countP` counts these in a span.
-/

namespace FunctionConsole.TickClock

/-- The clock after it was asked at some times. -/
def after (c : TickClock) (times : List Int) : TickClock :=
  times.foldl (fun c now => (c.due now).1) c

/-- The times at which a tick is due, of those at which the clock is asked. -/
def ticks (c : TickClock) : List Int → List Int
  | [] => []
  | now :: later =>
    if (c.due now).2 then now :: (c.due now).1.ticks later else (c.due now).1.ticks later

theorem ticks_sublist (c : TickClock) (times : List Int) : (c.ticks times).Sublist times := by
  induction times generalizing c with
  | nil => exact List.Sublist.refl _
  | cons now later ih =>
      rw [ticks]
      split
      · exact (ih _).cons_cons now
      · exact (ih _).cons now

theorem due_iff {c : TickClock} {now : Int} : (c.due now).2 = true ↔ c.remaining now = 0 := by
  rw [remaining, Nat.sub_eq_zero_iff_le]
  unfold due
  split
  · next hwithin => exact iff_of_false Bool.false_ne_true (Nat.not_le_of_lt hwithin)
  · next hover => exact iff_of_true rfl (Nat.le_of_not_lt hover)

section

variable {rate : Nat} {last now : Int}

-- ==================================================== one question

theorem due_of_early (hrate : 0 < rate) (h : now < last + rate) :
    due ⟨rate, last⟩ now = (⟨rate, last⟩, false) := by
  have hwithin : (now - last).toNat < rate := by omega
  exact if_pos hwithin

theorem due_of_late (h : last + rate ≤ now) : due ⟨rate, last⟩ now = (⟨rate, now⟩, true) := by
  have hover : ¬ (now - last).toNat < rate := by omega
  exact if_neg hover

theorem ticks_of_early (hrate : 0 < rate) (h : now < last + rate) (later : List Int) :
    ticks ⟨rate, last⟩ (now :: later) = ticks ⟨rate, last⟩ later := by
  rw [ticks, due_of_early hrate h]
  rfl

theorem ticks_of_late (h : last + rate ≤ now) (later : List Int) :
    ticks ⟨rate, last⟩ (now :: later) = now :: ticks ⟨rate, now⟩ later := by
  rw [ticks, due_of_late h]
  rfl

-- ==================================================== between two ticks

variable (hrate : 0 < rate)

include hrate

/-- No tick is due before the rate has passed since the one before it, nor since the start. -/
theorem ticks_apart (last : Int) (times : List Int) :
    (last :: ticks ⟨rate, last⟩ times).Pairwise fun s t : Int => s + rate ≤ t := by
  induction times generalizing last with
  | nil => exact List.pairwise_singleton _ _
  | cons now later ih =>
      rcases Int.lt_or_le now (last + rate) with hearly | hlate
      · rw [ticks_of_early hrate hearly]
        exact ih last
      · rw [ticks_of_late hlate]
        have hrest := ih now
        refine List.pairwise_cons.mpr ⟨fun t ht => ?_, hrest⟩
        rcases List.mem_cons.mp ht with rfl | ht
        · exact hlate
        · have hnext : now + rate ≤ t := List.rel_of_pairwise_cons hrest ht
          omega

/-- Where questions are at most `wait` apart, a tick comes before the rate and the wait have passed
since the one before it. The question before these was answered no, or it was the tick itself. -/
theorem ticks_soon {asked : Int} {wait : Nat} {times : List Int} (hasked : asked < last + rate)
    (htimes : (asked :: times).IsChain fun s t : Int => t ≤ s + wait) :
    (last :: ticks ⟨rate, last⟩ times).IsChain fun s t : Int => t < s + (rate + wait : Nat) := by
  induction times generalizing last asked with
  | nil => exact List.isChain_singleton _
  | cons now later ih =>
      obtain ⟨hwait, hlater⟩ := List.isChain_cons_cons.mp htimes
      rcases Int.lt_or_le now (last + rate) with hearly | hlate
      · rw [ticks_of_early hrate hearly]
        exact ih hearly hlater
      · rw [ticks_of_late hlate]
        exact List.isChain_cons_cons.mpr ⟨by omega, ih (by omega) hlater⟩

/-- The last tick, if there is one, is no earlier than the start. -/
theorem le_last_tick (last : Int) (times : List Int) :
    last ≤ (ticks ⟨rate, last⟩ times).getLastD last := by
  have hapart := ticks_apart hrate last times
  rcases List.eq_nil_or_concat' (ticks ⟨rate, last⟩ times) with hnone | ⟨front, tick, hticks⟩
  · rw [hnone]
    exact Int.le_refl _
  · rw [hticks] at hapart ⊢
    have htick : last + rate ≤ tick := List.rel_of_pairwise_cons hapart (by simp)
    rw [List.getLastD_concat]
    omega

/-- Whenever the clock is asked, the rate has not passed since the last tick of the run: it had not
when a question was answered no, and no question that was a tick is later than the last one. -/
theorem lt_last_tick {times : List Int} {t : Int} (ht : t ∈ times) :
    t < (ticks ⟨rate, last⟩ times).getLastD last + rate := by
  induction times generalizing last with
  | nil => cases ht
  | cons now later ih =>
      rcases Int.lt_or_le now (last + rate) with hearly | hlate
      · rw [ticks_of_early hrate hearly]
        rcases List.mem_cons.mp ht with rfl | ht
        · have hle := le_last_tick hrate last later
          omega
        · exact ih ht
      · rw [ticks_of_late hlate, List.getLastD_cons]
        rcases List.mem_cons.mp ht with rfl | ht
        · have hle := le_last_tick hrate t later
          omega
        · exact ih ht

end

-- ==================================================== ticks in a span of time

/-- Moments that are less than a period apart, the first of them no later than the start of a span
and the last one less than a period before its end: the span has a moment for each of its whole
periods. -/
theorem div_le_countP {period span : Nat} {x a : Int} {xs : List Int}
    (hxs : (x :: xs).IsChain fun s t : Int => t < s + period) (hstart : x ≤ a)
    (hend : a + span < xs.getLastD x + period) :
    span / period ≤ xs.countP fun t => a < t ∧ t < a + span := by
  induction xs generalizing x a span with
  | nil =>
      change a + span < x + period at hend
      rw [Nat.div_eq_of_lt (by omega)]
      exact Nat.zero_le _
  | cons y ys ih =>
      obtain ⟨hy, hys⟩ := List.isChain_cons_cons.mp hxs
      rw [List.getLastD_cons] at hend
      rcases Int.lt_or_le a y with hafter | hbefore
      · rcases Nat.lt_or_ge span period with hshort | hlong
        · rw [Nat.div_eq_of_lt hshort]
          exact Nat.zero_le _
        · -- this moment is in the first period, and the others have the rest of the span
          have hrest : (span - period) / period ≤
              ys.countP fun t => a + period < t ∧ t < a + period + (span - period : Nat) :=
            ih hys (by omega) (by omega)
          have hin : a < y ∧ y < a + span := by omega
          have hmore :
              ys.countP (fun t => a + period < t ∧ t < a + period + (span - period : Nat)) ≤
                ys.countP fun t => a < t ∧ t < a + span := by
            refine List.countP_mono_left fun t _ ht => ?_
            rw [decide_eq_true_eq] at ht ⊢
            omega
          rw [List.countP_cons_of_pos (by simpa using hin),
            Nat.div_eq_sub_div (by omega) hlong]
          omega
      · rw [List.countP_cons_of_neg (by simp; omega)]
        exact ih hys hbefore hend

/-- A clock is asked at whichever times, in order or not. A tick is due exactly if nothing remains
of the period, and ticks are at least the rate apart, the first one at least that after the start.
And if each question comes no later than a wait after the one before it, the first one no later than
that after the start, then each span of time after the start, its ends not counted, has at least as
many ticks as the rate and the wait together fit into it, provided that a question comes at its end
or later. -/
theorem ticks_keep_pace {rate : Nat} (hrate : 0 < rate) (start : Int) (times : List Int) :
    let c : TickClock := ⟨rate, start⟩
    let ticks := c.ticks times
    (ticks.Sublist times ∧ ∀ past now later, times = past ++ now :: later →
      (((c.after past).due now).2 = true ↔ (c.after past).remaining now = 0)) ∧
    (start :: ticks).Pairwise (fun s t : Int => s + rate ≤ t) ∧
    ∀ (wait span : Nat) (a : Int), (start :: times).IsChain (fun s t : Int => t ≤ s + wait) →
      start ≤ a → (∃ t ∈ times, a + span ≤ t) →
      span / (rate + wait) ≤ ticks.countP fun t => a < t ∧ t < a + span := by
  intro c ticks
  refine ⟨⟨ticks_sublist c times, fun _ _ _ _ => due_iff⟩, ticks_apart hrate start times,
    fun wait span a htimes ha hasked => ?_⟩
  obtain ⟨t, ht, hpast⟩ := hasked
  have hlast : t < ticks.getLastD start + rate := lt_last_tick hrate ht
  exact div_le_countP (ticks_soon hrate (by omega) htimes) ha (by omega)

/-- A key every 30 milliseconds leaves no time to wait for a tick. Of those that are due every 100
milliseconds two come within 260, and no more. -/
theorem ticks_beside_keys :
    let c : TickClock := ⟨100, 0⟩
    let keys : List Int := [30, 60, 90, 120, 150, 180, 210, 240, 270, 300]
    0 < 100 ∧ c.ticks keys = [120, 240] ∧
      ((0 : Int) :: keys).IsChain (fun s t : Int => t ≤ s + 30) ∧
      260 / (100 + 30) = 2 ∧ 2 ≤ (c.ticks keys).countP fun t => 0 < t ∧ t < 260 := by
  intro c keys
  have hkeys : ((0 : Int) :: keys).IsChain (fun s t : Int => t ≤ s + 30) := by decide
  obtain ⟨-, -, hcount⟩ := ticks_keep_pace (show 0 < 100 by decide) 0 keys
  exact ⟨by decide, by decide, hkeys, by decide,
    hcount 30 260 0 hkeys (by decide) ⟨270, by decide, by decide⟩⟩

end FunctionConsole.TickClock
