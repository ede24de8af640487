import FunctionConsole.Proofs.PagedList
import Mathlib.Data.List.Nodup

/-!
# Versions to compare

Two versions of a function can be checked for a comparison. The space bar checks the highlighted
one, or takes its check away; a check too many pushes out another. The checks outlast everything
else on the screen: pages are turned, loaded anew, not to be had, and a version is activated.

`CheckedSince` says by the picks alone which versions are checked and since when, without a list of
them: a pick takes a check away, or sets one and leaves of the others only the latest. `Slots` ties
the list of the screen to it, and one more pick keeps that. From it follows
`comparison_is_two_slot_queue`.
-/

namespace FunctionConsole

-- ==================================================== picks

/-- After some picks, the last of them first, a version is checked, and was so by the pick with this
number. The pick of a version that is checked takes its check away and leaves the others. The pick
of another one checks it, and leaves of the others the one that was checked last. -/
def CheckedSince : List UInt32 → UInt32 → Nat → Prop
  | [], _, _ => False
  | v :: past, u, t =>
    if u = v then (∀ t', ¬ CheckedSince past v t') ∧ t = past.length
    else CheckedSince past u t ∧
      ((∃ t', CheckedSince past v t') ∨ ∀ w t', CheckedSince past w t' → t' ≤ t)

/-- The version that an event picks: the highlighted one, with the space bar. -/
def Screen.picked? : Screen → ScreenEvent → Option UInt32
  | .versions s, .key (.char ' ') => s.selectedVersion.map (·.version)
  | _, _ => none

/-- The picks of some events after those of the past, the last one first. -/
def Screen.picks (past : List UInt32) : Screen → List ScreenEvent → List UInt32
  | _, [] => past
  | screen, event :: rest =>
    picks ((screen.picked? event).toList ++ past) (screen.react event) rest

/-- The checked versions in a row, the one that was checked first in front; `stamped` has them with
the numbers of their picks. -/
structure Slots (past : List UInt32) (stamped : List (UInt32 × Nat)) (checked : List UInt32) :
    Prop where
  versions : stamped.map Prod.fst = checked
  two : stamped.length ≤ 2
  inOrder : stamped.Pairwise fun p q => p.1 ≠ q.1 ∧ p.2 < q.2
  picked : ∀ p ∈ stamped, p.2 < past.length
  since : ∀ v t, CheckedSince past v t ↔ (v, t) ∈ stamped

namespace Slots

variable {past : List UInt32} {stamped : List (UInt32 × Nat)} {checked : List UInt32} {v : UInt32}

theorem mem_iff (h : Slots past stamped checked) :
    v ∈ checked ↔ ∃ t, CheckedSince past v t := by
  simp [← h.versions, h.since]

theorem nodup (h : Slots past stamped checked) : checked.Nodup := by
  rw [← h.versions, List.Nodup, List.pairwise_map]
  exact h.inOrder.imp fun hpq => hpq.1

theorem length_le (h : Slots past stamped checked) : checked.length ≤ 2 := by
  rw [← h.versions, List.length_map]
  exact h.two

/-- Versions further behind were checked later. -/
theorem ordered (h : Slots past stamped checked) :
    checked.Pairwise fun u v => ∀ t t', CheckedSince past u t → CheckedSince past v t' → t < t' := by
  -- a version has one number only
  have hone : ∀ p ∈ stamped, ∀ q ∈ stamped, p.1 = q.1 → p = q := by
    intro p hp q hq heq
    exact List.inj_on_of_nodup_map (h.versions ▸ h.nodup) hp hq heq
  rw [← h.versions, List.pairwise_map]
  refine h.inOrder.imp_of_mem fun {p q} hp hq hpq t t' ht ht' => ?_
  have hpt : p = (p.1, t) := hone p hp _ ((h.since _ _).mp ht) rfl
  have hqt : q = (q.1, t') := hone q hq _ ((h.since _ _).mp ht') rfl
  rw [hpt, hqt] at hpq
  exact hpq.2

/-- Its check is taken away from a version, and the others stay as they are. -/
theorem unchecked (h : Slots past stamped checked) (hv : v ∈ checked) :
    Slots (v :: past) (stamped.filter fun p => p.1 ≠ v) (checked.filter fun u => u ≠ v) where
  versions := by
    rw [← h.versions, List.filter_map]
    rfl
  two := Nat.le_trans (List.length_filter_le _ _) h.two
  inOrder := h.inOrder.filter _
  picked p hp := Nat.lt_succ_of_lt (h.picked p (List.mem_filter.mp hp).1)
  since u t := by
    obtain ⟨t₀, hchecked⟩ := h.mem_iff.mp hv
    rw [CheckedSince]
    split
    · next heq =>
      subst heq
      simpa using fun hnever => absurd hchecked (hnever t₀)
    · next hne =>
      have hsome : ∃ t', CheckedSince past v t' := ⟨t₀, hchecked⟩
      simp [h.since u t, hne, hsome]

/-- Of versions in a row only the one behind stands before no later one. -/
theorem latest_iff {stamped : List (UInt32 × Nat)} (htwo : stamped.length ≤ 2)
    (horder : stamped.Pairwise fun p q => p.1 ≠ q.1 ∧ p.2 < q.2) (p : UInt32 × Nat) :
    p ∈ stamped.drop (stamped.length - 1) ↔ p ∈ stamped ∧ ∀ q ∈ stamped, q.2 ≤ p.2 := by
  match stamped with
  | [] => simp
  | [q] => simp +contextual
  | [q, r] =>
      have hlt : q.2 < r.2 := (List.pairwise_pair.mp horder).2
      constructor
      · intro hp
        obtain rfl := List.mem_singleton.mp hp
        simp [Nat.le_of_lt hlt]
      · rintro ⟨hp, hlast⟩
        rcases List.mem_pair.mp hp with rfl | rfl
        · exact absurd (hlast r (by simp)) (Nat.not_le_of_lt hlt)
        · exact List.mem_singleton_self _

/-- A version is checked, and of the others the one that was checked last stays. -/
theorem added (h : Slots past stamped checked) (hv : v ∉ checked) :
    Slots (v :: past) (stamped.drop (stamped.length - 1) ++ [(v, past.length)])
      (checked.drop (checked.length - 1) ++ [v]) where
  versions := by
    rw [← h.versions, List.map_append, List.map_drop, List.length_map]
    rfl
  two := by
    rw [List.length_append, List.length_drop, List.length_singleton]
    omega
  inOrder := by
    rw [List.pairwise_append]
    refine ⟨h.inOrder.drop, List.pairwise_singleton _ _, fun p hp q hq => ?_⟩
    obtain rfl := List.mem_singleton.mp hq
    have hmem : p ∈ stamped := List.mem_of_mem_drop hp
    refine ⟨?_, h.picked p hmem⟩
    rintro rfl
    exact hv (h.versions ▸ List.mem_map_of_mem hmem)
  picked p hp := by
    rcases List.mem_append.mp hp with hp | hp
    · exact Nat.lt_succ_of_lt (h.picked p (List.mem_of_mem_drop hp))
    · obtain rfl := List.mem_singleton.mp hp
      exact Nat.lt_succ_self _
  since u t := by
    have hnever : ¬ ∃ t', CheckedSince past v t' := mt h.mem_iff.mpr hv
    rw [CheckedSince, List.mem_append, latest_iff h.two h.inOrder, List.mem_singleton]
    split
    · next heq =>
      subst heq
      have hnot : (u, t) ∉ stamped := fun hmem => hnever ⟨t, (h.since u t).mpr hmem⟩
      simp [hnot, not_exists.mp hnever]
    · next hne =>
      rw [or_iff_right hnever]
      simp [h.since, hne]

end Slots

-- ==================================================== the screen

namespace VersionsScreen

variable {s : VersionsScreen} {v : UInt32}

/-- Its check is taken away from a version, and the others stay in their order. -/
theorem toggleChecked_of_mem (hnodup : s.checked.Nodup) (hv : v ∈ s.checked) :
    (s.toggleChecked v).checked = s.checked.filter fun u => u ≠ v := by
  rw [toggleChecked, if_pos (List.contains_iff_mem.mpr hv), hnodup.erase_eq_filter]
  exact List.filter_congr fun u _ => by simp [bne, beq_eq_decide]

/-- A version is checked behind the others; of two only the later one stays. -/
theorem toggleChecked_of_notMem (htwo : s.checked.length ≤ 2) (hv : v ∉ s.checked) :
    (s.toggleChecked v).checked = s.checked.drop (s.checked.length - 1) ++ [v] := by
  rw [toggleChecked, if_neg (mt List.contains_iff_mem.mp hv)]
  split
  · next hfull => rw [hfull]; rfl
  · next hfree =>
    have hone : s.checked.length - 1 = 0 := by
      rw [maxChecked] at hfree
      omega
    rw [hone]
    rfl

/-- One more pick. -/
theorem toggleChecked_slots {past : List UInt32} {stamped : List (UInt32 × Nat)}
    (h : Slots past stamped s.checked) (v : UInt32) :
    ∃ stamped', Slots (v :: past) stamped' (s.toggleChecked v).checked := by
  by_cases hv : v ∈ s.checked
  · rw [toggleChecked_of_mem h.nodup hv]
    exact ⟨_, h.unchecked hv⟩
  · rw [toggleChecked_of_notMem h.length_le hv]
    exact ⟨_, h.added hv⟩

/-- The space bar checks the highlighted version, or takes its check away. -/
theorem handleKey_space (s : VersionsScreen) : s.handleKey (.char ' ') =
    some ((s.selectedVersion.map fun v => s.toggleChecked v.version).getD s, .none) := by
  unfold handleKey
  cases hv : s.selectedVersion <;> simp [Screen.moveSelection, PageState.handleKey]

/-- No other key touches a check. -/
theorem handleKey_checked {key : Key} (hkey : key ≠ .char ' ') :
    ∀ p ∈ s.handleKey key, p.1.id = s.id ∧ p.1.checked = s.checked := by
  have hkept : ∀ e : Effects, ∀ p ∈ some (s, e), p.1.id = s.id ∧ p.1.checked = s.checked := by
    rintro e p ⟨⟩
    exact ⟨rfl, rfl⟩
  unfold handleKey
  split
  · rintro p ⟨⟩
    exact ⟨rfl, rfl⟩
  · split
    · exact hkept _
    · rintro p ⟨⟩
      exact ⟨rfl, rfl⟩
    · split
      · exact absurd rfl hkey
      · exact hkept _
      · split <;> exact hkept _
      · simp

/-- A response touches no check. -/
theorem handleResponse_checked (s : VersionsScreen) (r : Response) :
    (s.handleResponse r).1.id = s.id ∧ (s.handleResponse r).1.checked = s.checked := by
  unfold handleResponse
  split
  case h_3 =>
      split
      · exact ⟨rfl, rfl⟩
      · split <;> exact ⟨rfl, rfl⟩
  all_goals exact ⟨rfl, rfl⟩

theorem toggleChecked_id (s : VersionsScreen) (v : UInt32) : (s.toggleChecked v).id = s.id := by
  unfold toggleChecked
  split
  · rfl
  · split <;> rfl

/-- Any event but the space bar leaves the checks as they are, and picks nothing. -/
theorem react_kept (s : VersionsScreen) {event : ScreenEvent} (hevent : event ≠ .key (.char ' ')) :
    (Screen.versions s).picked? event = none ∧ ∃ s', (Screen.versions s).react event = .versions s' ∧
      s'.id = s.id ∧ s'.checked = s.checked := by
  have hnone : (Screen.versions s).picked? event = none := by
    unfold Screen.picked?
    split
    · exact absurd rfl hevent
    · rfl
  refine ⟨hnone, ?_⟩
  cases event with
  | key k =>
      have hk : k ≠ .char ' ' := fun heq => hevent (heq ▸ rfl)
      cases hkey : s.handleKey k with
      | none => exact ⟨s, by simp [Screen.react, Screen.handleKey, hkey], rfl, rfl⟩
      | some p =>
          exact ⟨p.1, by simp [Screen.react, Screen.handleKey, hkey],
            handleKey_checked hk p hkey⟩
  | response r => exact ⟨_, rfl, s.handleResponse_checked r⟩

/-- The checks after an event: those after its pick, if it has one, and else the same. -/
theorem react_slots {past : List UInt32} {stamped : List (UInt32 × Nat)}
    (h : Slots past stamped s.checked) (event : ScreenEvent) :
    ∃ s' stamped', (Screen.versions s).react event = .versions s' ∧ s'.id = s.id ∧
      Slots (((Screen.versions s).picked? event).toList ++ past) stamped' s'.checked := by
  by_cases hevent : event = .key (.char ' ')
  · subst hevent
    have hreact : (Screen.versions s).react (.key (.char ' ')) =
        .versions ((s.selectedVersion.map fun v => s.toggleChecked v.version).getD s) := by
      simp [Screen.react, Screen.handleKey, handleKey_space]
    rw [hreact, Screen.picked?]
    cases hv : s.selectedVersion with
    | none => exact ⟨s, stamped, rfl, rfl, h⟩
    | some v =>
        obtain ⟨stamped', h'⟩ := toggleChecked_slots h v.version
        exact ⟨s.toggleChecked v.version, stamped', rfl, s.toggleChecked_id v.version, h'⟩
  · obtain ⟨hnone, s', hreact, hid, hchecked⟩ := s.react_kept hevent
    refine ⟨s', stamped, hreact, hid, ?_⟩
    rw [hnone, hchecked]
    exact h

/-- The checks after some events. -/
theorem after_slots {past : List UInt32} {stamped : List (UInt32 × Nat)}
    (h : Slots past stamped s.checked) (events : List ScreenEvent) :
    ∃ s' stamped', (Screen.versions s).after events = .versions s' ∧ s'.id = s.id ∧
      Slots ((Screen.versions s).picks past events) stamped' s'.checked := by
  induction events generalizing s past stamped with
  | nil => exact ⟨s, stamped, rfl, rfl, h⟩
  | cons event rest ih =>
      obtain ⟨s₁, stamped₁, hreact, hid₁, h₁⟩ := react_slots h event
      obtain ⟨s', stamped', hafter, hid, h'⟩ := ih h₁
      refine ⟨s', stamped', ?_, hid.trans hid₁, ?_⟩
      · rw [Screen.after, List.foldl_cons, hreact]
        exact hafter
      · rw [Screen.picks, hreact]
        exact h'

/-- There is a comparison exactly with two checks. -/
theorem compareRoute_eq_some_iff {route : Route} : s.compareRoute = some route ↔
    ∃ a b, s.checked = [a, b] ∧ route = .diff s.id (min a b) (max a b) := by
  unfold compareRoute
  split
  · next a b heq => simp [heq, eq_comm]
  · next hnot =>
    refine ⟨nofun, ?_⟩
    rintro ⟨a, b, heq, -⟩
    exact absurd heq (hnot a b)

/-- The two versions to compare, the lower one first. -/
theorem compared_lt {a b : UInt32} (hne : a ≠ b) :
    min a b < max a b ∧ ([a, b] = [min a b, max a b] ∨ [a, b] = [max a b, min a b]) := by
  by_cases hle : a ≤ b
  · rw [show min a b = a from if_pos hle, show max a b = b from if_pos hle]
    exact ⟨UInt32.lt_of_le_of_ne hle hne, .inl rfl⟩
  · rw [show min a b = b from if_neg hle, show max a b = a from if_neg hle]
    exact ⟨UInt32.not_le.mp hle, .inr rfl⟩

/-- The checks are two slots, first in, first out. From the fresh screen on, whatever keys and
responses come: no version is checked twice, and no more than two are; checked are those that the
picks have checked, and they stand in the order in which they were. To pick a version that is
checked takes out this one and leaves the others in their order; another one comes in behind, and
where two are checked the one that was checked first makes room for it. There is a comparison
exactly if two versions are checked, and it is of these two, the lower one first. -/
theorem comparison_is_two_slot_queue (ctx : ScreenContext) (id : String)
    (events : List ScreenEvent) :
    let opened := (Screen.ofRoute ctx (.versions id)).1
    let picks := opened.picks [] events
    ∃ s, opened.after events = .versions s ∧ s.checked.Nodup ∧ s.checked.length ≤ 2 ∧
      (∀ v, v ∈ s.checked ↔ ∃ t, CheckedSince picks v t) ∧
      (s.checked.Pairwise fun u v =>
        ∀ t t', CheckedSince picks u t → CheckedSince picks v t' → t < t') ∧
      (∀ v ∈ s.checked, (s.toggleChecked v).checked = s.checked.filter fun u => u ≠ v) ∧
      (∀ v ∉ s.checked, s.checked.length < 2 → (s.toggleChecked v).checked = s.checked ++ [v]) ∧
      (∀ v ∉ s.checked, ∀ a b, s.checked = [a, b] → (s.toggleChecked v).checked = [b, v]) ∧
      (s.compareRoute.isSome ↔ s.checked.length = 2) ∧
      ∀ route, s.compareRoute = some route → ∃ old new, route = .diff id old new ∧ old < new ∧
        (s.checked = [old, new] ∨ s.checked = [new, old]) := by
  intro opened picks
  have hnone : Slots [] [] (VersionsScreen.enter id ctx).1.checked :=
    ⟨rfl, Nat.zero_le _, .nil, nofun, fun _ _ => by simp [CheckedSince]⟩
  obtain ⟨s, stamped, hafter, hid, h⟩ := after_slots hnone events
  refine ⟨s, hafter, h.nodup, h.length_le, fun v => h.mem_iff, h.ordered,
    fun v => toggleChecked_of_mem h.nodup, ?_, ?_, ?_, ?_⟩
  · intro v hv hfree
    have hzero : s.checked.length - 1 = 0 := by omega
    rw [toggleChecked_of_notMem h.length_le hv, hzero]
    rfl
  · intro v hv a b hab
    rw [toggleChecked_of_notMem h.length_le hv, hab]
    rfl
  · rw [Option.isSome_iff_exists]
    simp only [compareRoute_eq_some_iff, List.length_eq_two]
    constructor
    · rintro ⟨_, a, b, hab, -⟩
      exact ⟨a, b, hab⟩
    · rintro ⟨a, b, hab⟩
      exact ⟨_, a, b, hab, rfl⟩
  · intro route hroute
    obtain ⟨a, b, hab, rfl⟩ := compareRoute_eq_some_iff.mp hroute
    have hne : a ≠ b := by simpa [hab] using h.nodup
    obtain ⟨hlt, horder⟩ := compared_lt hne
    rw [hab]
    exact ⟨_, _, by rw [hid]; rfl, hlt, horder⟩

end VersionsScreen

end FunctionConsole
