import FunctionConsole.Console
import Mathlib.Data.List.Basic

/-!
# The lifetime of toasts

A toast stays until it is dismissed or until toasts are expired at its moment or later, whichever
moments the calls name: they need not come in order. What has been shown in a run is a list of its
own (`shown`), and the toasts that are left are those of it that no later call removes, in the same
order (`items_after`). Numbers are given in the order of the calls and are not given back
(`numbers_increase`).
-/

namespace FunctionConsole

namespace Toasts

/-- What toasts are told to do. -/
inductive Call where
  | push (message : String) (kind : ToastKind) (now : Moment)
  | dismiss (id : Nat)
  | expire (now : Moment)
  deriving DecidableEq, Repr

/-- A call takes a toast away, if it is there. -/
def Call.Removes (toast : Toast) : Call → Prop
  | .push _ _ _ => False
  | .dismiss id => toast.id = id
  | .expire now => toast.expiresAt ≤ now

instance (toast : Toast) : DecidablePred (Call.Removes toast)
  | .push _ _ _ => inferInstanceAs (Decidable False)
  | .dismiss id => inferInstanceAs (Decidable (toast.id = id))
  | .expire now => inferInstanceAs (Decidable (toast.expiresAt ≤ now))

/-- Does what the toasts are told, and answers the number of a new toast or how many expired. -/
def perform (t : Toasts) : Call → Toasts × Option Nat
  | .push message kind now => (t.push message kind now, some t.nextId)
  | .dismiss id => (t.dismiss id, none)
  | .expire now => ((t.expire now).1, some (t.expire now).2)

/-- The toasts after some calls. -/
def after (t : Toasts) (calls : List Call) : Toasts :=
  calls.foldl (fun t call => (t.perform call).1) t

/-- The toast that a call shows, if it shows one. -/
def shownBy (t : Toasts) : Call → Option Toast
  | .push message kind now => some ⟨t.nextId, message, kind, now + t.duration⟩
  | _ => none

/-- All toasts that are shown in a run, those that have gone included. -/
def shown (t : Toasts) : List Call → List Toast
  | [] => []
  | call :: later => (t.shownBy call).toList ++ (t.perform call).1.shown later

/-- The toasts of a run that no call after theirs removes. -/
def kept (t : Toasts) : List Call → List Toast
  | [] => []
  | call :: later =>
    ((t.shownBy call).toList.filter fun toast => later.all fun c => ¬ c.Removes toast) ++
      (t.perform call).1.kept later

section

variable {t : Toasts} {call : Call} {calls past later : List Call} {toast : Toast}

@[simp] theorem after_nil (t : Toasts) : t.after [] = t := rfl

@[simp] theorem after_cons (t : Toasts) (call : Call) (later : List Call) :
    t.after (call :: later) = (t.perform call).1.after later := rfl

theorem after_append (t : Toasts) (past later : List Call) :
    t.after (past ++ later) = (t.after past).after later := List.foldl_append

-- ==================================================== one call

/-- A call leaves the toasts that it does not remove and adds the one that it shows. -/
theorem items_perform (t : Toasts) (call : Call) : (t.perform call).1.items =
    (t.items.filter fun toast => ¬ call.Removes toast) ++ (t.shownBy call).toList := by
  cases call with
  | push message kind now =>
      simp [perform, push, shownBy, Call.Removes]
  | dismiss id =>
      simp only [perform, dismiss, shownBy, Call.Removes, Option.toList_none, List.append_nil]
      exact List.filter_congr fun toast _ => by by_cases h : toast.id = id <;> simp [h]
  | expire now =>
      simp [perform, expire, shownBy, Call.Removes]

theorem duration_perform (t : Toasts) (call : Call) : (t.perform call).1.duration = t.duration := by
  cases call <;> rfl

/-- The next number moves on with each toast that is shown, and with nothing else. -/
theorem nextId_perform (t : Toasts) (call : Call) :
    (t.perform call).1.nextId = t.nextId + (t.shownBy call).toList.length := by
  cases call <;> rfl

-- ==================================================== runs

theorem duration_after (t : Toasts) (calls : List Call) :
    (t.after calls).duration = t.duration := by
  induction calls generalizing t with
  | nil => rfl
  | cons call later ih => rw [after_cons, ih, duration_perform]

/-- What is left after some calls: of the toasts that were there and of those that were shown, the
ones that no later call removes. -/
theorem items_after (t : Toasts) (calls : List Call) : (t.after calls).items =
    (t.items.filter fun toast => calls.all fun c => ¬ c.Removes toast) ++ t.kept calls := by
  induction calls generalizing t with
  | nil => simp [kept]
  | cons call later ih =>
      rw [after_cons, ih, items_perform, List.filter_append, List.filter_filter, List.append_assoc,
        kept]
      simp [Bool.and_comm]

/-- What is left of a run is some of what was shown in it, in the same order. -/
theorem kept_sublist_shown (t : Toasts) (calls : List Call) :
    (t.kept calls).Sublist (t.shown calls) := by
  induction calls generalizing t with
  | nil => exact List.Sublist.refl _
  | cons call later ih => exact List.filter_sublist.append (ih _)

/-- The toasts of a run are numbered one after the other. -/
theorem numbers_shown (t : Toasts) (calls : List Call) :
    (t.shown calls).map Toast.id = List.range' t.nextId (t.shown calls).length := by
  induction calls generalizing t with
  | nil => rfl
  | cons call later ih =>
      rw [shown, List.map_append, ih, List.length_append, ← List.range'_append_1, nextId_perform]
      cases call <;> rfl

/-- Each toast of a run has a greater number than those shown before it. -/
theorem numbers_increase (t : Toasts) (calls : List Call) :
    (t.shown calls).Pairwise fun a b => a.id < b.id := by
  rw [← List.pairwise_map (f := Toast.id), numbers_shown]
  exact List.pairwise_lt_range'

/-- A number that is given in a run was not given before. -/
theorem nextId_le_of_mem_shown (h : toast ∈ t.shown calls) : t.nextId ≤ toast.id := by
  have hid : toast.id ∈ (t.shown calls).map Toast.id := List.mem_map_of_mem h
  rw [numbers_shown] at hid
  exact (List.mem_range'_1.mp hid).1

/-- A toast that is shown after some calls stays through others exactly if none of them removes
it. -/
theorem mem_items_of_shownBy (h : (t.after past).shownBy call = some toast) :
    toast ∈ (t.after (past ++ call :: later)).items ↔ ∀ c ∈ later, ¬ c.Removes toast := by
  have hnew : toast.id < ((t.after past).perform call).1.nextId := by
    cases call with
    | push message kind now =>
        cases h
        exact Nat.lt_succ_self _
    | dismiss _ | expire _ => cases h
  -- what is shown later has another number
  have hfresh : toast ∉ ((t.after past).perform call).1.kept later := fun hmem =>
    absurd (nextId_le_of_mem_shown ((kept_sublist_shown _ _).subset hmem)) (Nat.not_le.mpr hnew)
  rw [after_append, after_cons, items_after, items_perform, h]
  simp only [List.filter_append, List.mem_append, List.mem_filter, hfresh, or_false]
  simp +contextual

/-- A toast that is shown stays among those that are shown in the run. -/
theorem mem_shown_of_shownBy (h : (t.after past).shownBy call = some toast) :
    toast ∈ t.shown (past ++ call :: later) := by
  induction past generalizing t with
  | nil =>
      rw [after_nil] at h
      simp [shown, h]
  | cons first past ih =>
      rw [after_cons] at h
      exact List.mem_append_right _ (ih h)

/-- Expiring answers how many toasts are gone. -/
theorem perform_expire (t : Toasts) (now : Moment) :
    let rest := t.perform (.expire now)
    rest.2 = some (t.items.countP fun toast => toast ∉ rest.1.items) := by
  have hsplit :=
    List.length_eq_countP_add_countP (fun toast : Toast => decide (toast.expiresAt > now))
    (l := t.items)
  have hgone : t.items.countP (fun toast => decide (toast ∉ (t.expire now).1.items)) =
      t.items.countP fun toast => decide ¬ (decide (toast.expiresAt > now)) = true :=
    List.countP_congr fun toast hmem => by simp [expire, hmem]
  show some (t.items.length - (t.expire now).1.items.length) =
    some (t.items.countP fun toast => toast ∉ (t.expire now).1.items)
  rw [hgone, hsplit, List.countP_eq_length_filter]
  exact congrArg some (Nat.add_sub_cancel_left _ _)

end

end Toasts

-- ==================================================== the toasts of a console

namespace Console

section

variable (c : Console) (now : Moment)

theorem toasts_applyEffects (e : Effects) :
    (c.applyEffects now e).1.toasts = (c.addToasts now e.toasts).toasts := by
  unfold applyEffects
  split <;> rfl

theorem toasts_switchTab (index : Nat) : (c.switchTab index).1.toasts = c.toasts := by
  unfold switchTab
  split
  · split <;> rfl
  · rfl

theorem toasts_globalKey (key : Key) : (c.globalKey key).1.toasts = c.toasts := by
  unfold globalKey
  split
  case h_4 => split <;> rfl
  case h_5 =>
      split
      · exact c.toasts_switchTab _
      · rfl
  all_goals rfl

theorem toasts_paletteKey (key : Key) : (c.paletteKey key).1.toasts = c.toasts := by
  unfold paletteKey
  split <;> rfl

/-- A key shows the toasts that the screen asks for. -/
theorem toasts_handleKey (key : Key) :
    ∃ shown, (c.handleKey now key).1.toasts = (c.addToasts now shown).toasts := by
  have hscreen : ∃ shown, (c.screenKey now key).1.toasts = (c.addToasts now shown).toasts := by
    unfold screenKey
    split
    · next screen effects _ => exact ⟨effects.toasts, toasts_applyEffects _ now effects⟩
    · exact ⟨[], c.toasts_globalKey key⟩
  unfold handleKey
  split
  · exact ⟨[], rfl⟩
  · split
    · exact ⟨[], rfl⟩
    · split
      · exact ⟨[], c.toasts_paletteKey key⟩
      · unfold openKey
        split
        · exact ⟨[], rfl⟩
        · split
          · split
            · exact ⟨[], c.toasts_switchTab _⟩
            · exact hscreen
          · exact hscreen

/-- A response shows the toasts that the screen asks for, or word of the end of the session. -/
theorem toasts_handleResponse (ticket : Ticket) (response : Response) :
    ∃ shown, (c.handleResponse now ticket response).1.toasts = (c.addToasts now shown).toasts := by
  unfold handleResponse
  split
  · split
    · unfold paletteResponse
      split
      · exact ⟨[], rfl⟩
      · split
        · exact ⟨_, rfl⟩
        · exact ⟨[], rfl⟩
      · exact ⟨[], rfl⟩
    · exact ⟨[], rfl⟩
  · split
    · unfold viewResponse
      split
      · exact ⟨[], rfl⟩
      · split
        · exact ⟨_, rfl⟩
        · exact ⟨_, toasts_applyEffects _ now _⟩
    · exact ⟨[], rfl⟩

/-- Whatever happens but a tick shows some toasts or none, at its own moment. -/
theorem toasts_of_other {m : Message} (hm : m ≠ .tick) :
    ∃ shown, (c.update now m).1.toasts = (c.addToasts now shown).toasts := by
  cases m with
  | tick => exact absurd rfl hm
  | key key => exact c.toasts_handleKey now key
  | api ticket response => exact c.toasts_handleResponse now ticket response
  | startup route apiKey =>
      refine ⟨[], ?_⟩
      rw [update, startup]
      split
      · rfl
      · split <;> rfl
  | togglePalette =>
      refine ⟨[], ?_⟩
      rw [update, togglePalette]
      split
      · rfl
      · split <;> rfl
  | back =>
      refine ⟨[], ?_⟩
      rw [update]
      split <;> rfl
  | confirmAccepted =>
      refine ⟨[], ?_⟩
      rw [update]
      split <;> rfl
  | _ => exact ⟨[], rfl⟩

/-- Only ticks take toasts away. -/
theorem toasts_update (m : Message) : ∃ calls, (c.update now m).1.toasts = c.toasts.after calls ∧
    (m = .tick ∧ calls = [.expire now] ∨
      m ≠ .tick ∧ ∀ call ∈ calls, ∃ message kind, call = .push message kind now) := by
  by_cases hm : m = .tick
  · subst hm
    exact ⟨[.expire now], rfl, .inl ⟨rfl, rfl⟩⟩
  · obtain ⟨shown, hshown⟩ := c.toasts_of_other now hm
    refine ⟨shown.map fun p => .push p.1 p.2 now, ?_, .inr ⟨hm, fun call hcall => ?_⟩⟩
    · rw [hshown, Toasts.after, List.foldl_map]
      rfl
    · obtain ⟨p, -, rfl⟩ := List.mem_map.mp hcall
      exact ⟨p.1, p.2, rfl⟩

end

end Console

namespace Toasts

/-- From the first toast on, whatever is shown, dismissed and expired, at whichever moments: the
toasts get the numbers 1, 2, 3 and so on in the order in which they are shown, so that no number is
given twice; what is there has been shown, and stands in that order. A toast is there exactly if,
after it was shown, neither its number was dismissed nor toasts were expired at a moment that is at
least its own and the duration; and expiring answers how many of the toasts that were there have
gone. In the console a tick expires the toasts at its moment, and whatever else happens only shows
some at its own. -/
theorem present_for_lifetime (duration : Nat) :
    let start : Toasts := { duration }
    (∀ calls, (start.shown calls).map Toast.id = List.range' 1 (start.shown calls).length ∧
      (start.shown calls).Pairwise (fun a b => a.id < b.id) ∧
      (start.after calls).items.Sublist (start.shown calls)) ∧
    (∀ past message kind now later, ∃ id,
      ((start.after past).perform (.push message kind now)).2 = some id ∧
      let calls := past ++ .push message kind now :: later
      let toast : Toast := ⟨id, message, kind, now + duration⟩
      toast ∈ start.shown calls ∧
        (toast ∈ (start.after calls).items ↔
          .dismiss id ∉ later ∧ ∀ moment, .expire moment ∈ later → ¬ now + duration ≤ moment)) ∧
    (∀ past now,
      let before := start.after past
      let rest := before.perform (.expire now)
      rest.2 = some (before.items.countP fun toast => toast ∉ rest.1.items)) ∧
    ∀ (c : Console) (now : Moment) (m : Message), ∃ calls,
      (c.update now m).1.toasts = c.toasts.after calls ∧
        (m = .tick ∧ calls = [.expire now] ∨
          m ≠ .tick ∧ ∀ call ∈ calls, ∃ message kind, call = .push message kind now) := by
  intro start
  refine ⟨fun calls => ⟨numbers_shown _ _, numbers_increase _ _, ?_⟩,
    fun past message kind now later => ⟨(start.after past).nextId, rfl, ?_⟩,
    fun past now => perform_expire _ _, fun c now m => c.toasts_update now m⟩
  · rw [items_after]
    exact kept_sublist_shown _ _
  · intro calls toast
    have hshown : (start.after past).shownBy (.push message kind now) = some toast := by
      rw [shownBy, duration_after]
    refine ⟨mem_shown_of_shownBy hshown, (mem_items_of_shownBy hshown).trans ?_⟩
    constructor
    · exact fun hstays => ⟨fun hmem => hstays _ hmem rfl, fun moment hmem => hstays _ hmem⟩
    · rintro ⟨hdismissed, hexpired⟩ call hcall hremoves
      cases call with
      | push _ _ _ => exact hremoves
      | dismiss id =>
          cases hremoves
          exact hdismissed hcall
      | expire moment => exact hexpired moment hcall hremoves

end Toasts

end FunctionConsole
