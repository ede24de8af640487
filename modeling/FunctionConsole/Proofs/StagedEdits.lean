import FunctionConsole.Proofs.FlatText

/-!
# Edits that are not saved

The settings and the code of a function are edited in inputs that the screen fills in from its copy
of the function. When another copy comes, an input that the user has changed is to be left alone.
That it was changed the screen finds out at that moment, from the copy it has had until then
(`FilledInput.Staged`). So a change outlives any number of copies, and any other response
(`FilledInput.kept_after`); but a copy that could not be had takes away what the input is compared
with, and the copy after that one is filled in over the change (`FilledInput.lost_after`).

`FilledInput` says what the inputs of both screens have in common, and the runs of responses are
dealt with there. `staged_settings_last_until_copy_lost` and `unsaved_code_lasts_until_copy_lost`
are what it gives for the settings and for the code.
-/

namespace FunctionConsole

-- ==================================================== inputs filled in from a copy

/-- Among these responses a copy of the function comes after one that was not to be had. -/
def CopyLost (responses : List Response) : Prop :=
  ∃ before e after f, responses = before ++ .function (.error e) :: after ∧
    .function (.ok f) ∈ after

/-- A load that fails at the end has lost no copy that came before. -/
theorem not_copyLost_of_failed_last (responses : List Response) (e : ApiError)
    (h : ∀ e, .function (.error e) ∉ responses) :
    ¬ CopyLost (responses ++ [.function (.error e)]) := by
  rintro ⟨before, e', after, f, heq, hmem⟩
  obtain rfl | ⟨first, last, rfl⟩ := List.eq_nil_or_concat after
  · cases hmem
  · rw [List.concat_eq_append, ← List.cons_append, ← List.append_assoc] at heq
    obtain ⟨rfl, -⟩ := List.append_inj' heq rfl
    exact h e' (by simp)

/-- A response brings a copy of the function, or word that there is none, or something else. -/
theorem Response.function_cases (r : Response) :
    (∃ f, r = .function (.ok f)) ∨ (∃ e, r = .function (.error e)) ∨
      ∀ result, r ≠ .function result := by
  by_cases h : ∃ result, r = .function result
  · obtain ⟨result, rfl⟩ := h
    cases result with
    | ok f => exact .inl ⟨f, rfl⟩
    | error e => exact .inr (.inl ⟨e, rfl⟩)
  · exact .inr (.inr fun result heq => h ⟨result, heq⟩)

/-- Where an input of a screen is, and what it is filled in from. -/
structure InputPlace (σ ι α : Type) where
  /-- The copy of the function that the screen has. -/
  copy : σ → Loadable Function
  input : σ → ι
  text : ι → α
  /-- What a function has for the text. -/
  own : Function → α

namespace InputPlace

variable {σ ι α : Type} (x : InputPlace σ ι α) {s : σ}

/-- The text of an input differs from the copy that the screen has. -/
def Staged (s : σ) : Prop := ∃ f, x.copy s = .loaded f ∧ x.text (x.input s) ≠ x.own f

/-- The text of an input, if it differs from the copy that the screen has. -/
def change? [DecidableEq α] (s : σ) : Option α :=
  (x.copy s).get?.bind fun f =>
    if x.text (x.input s) ≠ x.own f then some (x.text (x.input s)) else none

theorem change?_eq_some [DecidableEq α] {a : α} :
    x.change? s = some a ↔ x.Staged s ∧ x.text (x.input s) = a := by
  unfold change? Staged
  cases x.copy s with
  | loaded f => by_cases h : x.text (x.input s) = x.own f <;> simp [Loadable.get?, h]
  | loading | notFound => simp [Loadable.get?]

theorem change?_eq_none [DecidableEq α] : x.change? s = none ↔ ¬ x.Staged s := by
  rw [Option.eq_none_iff_forall_ne_some]
  constructor
  · intro h hstaged
    exact h _ (x.change?_eq_some.mpr ⟨hstaged, rfl⟩)
  · intro h a ha
    exact h (x.change?_eq_some.mp ha).1

section

variable [DecidableEq α] {fresh new : ι}
variable (h : new = if (x.change? s).isNone then fresh else x.input s)
include h

/-- A new copy leaves an input that was changed. -/
theorem left_of_seeded (hstaged : x.Staged s) : new = x.input s := by
  rw [h, x.change?_eq_some.mpr ⟨hstaged, rfl⟩]
  rfl

/-- A new copy is filled in where nothing was changed. -/
theorem filled_of_seeded (hunstaged : ¬ x.Staged s) : new = fresh := by
  rw [h, x.change?_eq_none.mpr hunstaged]
  rfl

end

end InputPlace

/-- An input that is filled in from every copy of the function that comes, unless its text differs
from the copy before. -/
structure FilledInput {σ : Type} (told : σ → Response → σ) (ι α : Type) extends
    InputPlace σ ι α where
  loaded : ∀ s f, copy (told s (.function (.ok f))) = .loaded f
  failed : ∀ s e, copy (told s (.function (.error e))) = .notFound
  kept : ∀ s r, (∀ result, r ≠ .function result) → copy (told s r) = copy s
  untouched : ∀ s r, (∀ f, r ≠ .function (.ok f)) → input (told s r) = input s
  left : ∀ s f, toInputPlace.Staged s → input (told s (.function (.ok f))) = input s
  filled : ∀ s f, ¬ toInputPlace.Staged s → text (input (told s (.function (.ok f)))) = own f

namespace FilledInput

variable {σ ι α : Type} {told : σ → Response → σ} (x : FilledInput told ι α) {s : σ}

/-- Without a copy there is nothing that an input could differ from. -/
theorem unstaged_of_failed (s : σ) (e : ApiError) :
    ¬ x.Staged (told s (.function (.error e))) := by
  rintro ⟨f, hcopy, -⟩
  rw [x.failed] at hcopy
  cases hcopy

/-- A response makes no change out of what was none. -/
theorem unstaged_told (h : ¬ x.Staged s) (r : Response) : ¬ x.Staged (told s r) := by
  rintro ⟨g, hcopy, htext⟩
  obtain ⟨f, rfl⟩ | ⟨e, rfl⟩ | hother := r.function_cases
  · rw [x.loaded] at hcopy
    cases hcopy
    exact htext (x.filled s g h)
  · exact x.unstaged_of_failed s e ⟨g, hcopy, htext⟩
  · rw [x.kept s r hother] at hcopy
    rw [x.untouched s r fun f => hother (.ok f)] at htext
    exact h ⟨g, hcopy, htext⟩

/-- An input that was not changed shows the last copy that has come. -/
theorem unstaged_after (h : ¬ x.Staged s) (responses : List Response) :
    (∃ f, .function (.ok f) ∈ responses ∧
        x.text (x.input (responses.foldl told s)) = x.own f) ∨
      (∀ f, .function (.ok f) ∉ responses) ∧ x.input (responses.foldl told s) = x.input s := by
  induction responses generalizing s with
  | nil => exact .inr ⟨fun _ => List.not_mem_nil, rfl⟩
  | cons r rest ih =>
      obtain ⟨f, hmem, htext⟩ | ⟨hnone, hsame⟩ := ih (x.unstaged_told h r)
      · exact .inl ⟨f, List.mem_cons_of_mem _ hmem, htext⟩
      · by_cases hr : ∃ f, r = .function (.ok f)
        · obtain ⟨f, rfl⟩ := hr
          refine .inl ⟨f, List.mem_cons_self, ?_⟩
          rw [List.foldl_cons, hsame, x.filled s f h]
        · have hno : ∀ f, r ≠ .function (.ok f) := fun f heq => hr ⟨f, heq⟩
          refine .inr ⟨fun f hmem => ?_, by rw [List.foldl_cons, hsame, x.untouched s r hno]⟩
          rcases List.mem_cons.mp hmem with heq | hmem
          · exact hno f heq.symm
          · exact hnone f hmem

/-- A change outlives all copies that differ from it, unless one of them could not be had and
another has come after. -/
theorem kept_after (h : x.Staged s) {responses : List Response}
    (hdiffer : ∀ f, .function (.ok f) ∈ responses → x.own f ≠ x.text (x.input s))
    (hkept : ¬ CopyLost responses) : x.input (responses.foldl told s) = x.input s := by
  induction responses generalizing s with
  | nil => rfl
  | cons r rest ih =>
      have hrest : ¬ CopyLost rest := by
        rintro ⟨before, e, after, f, rfl, hmem⟩
        exact hkept ⟨r :: before, e, after, f, rfl, hmem⟩
      have hlater : ∀ f, .function (.ok f) ∈ rest → x.own f ≠ x.text (x.input s) :=
        fun f hmem => hdiffer f (List.mem_cons_of_mem _ hmem)
      rw [List.foldl_cons]
      obtain ⟨f, rfl⟩ | ⟨e, rfl⟩ | hother := r.function_cases
      · have hsame := x.left s f h
        have hstaged : x.Staged (told s (.function (.ok f))) :=
          ⟨f, x.loaded s f, hsame ▸ (hdiffer f List.mem_cons_self).symm⟩
        rw [ih hstaged (hsame ▸ hlater) hrest, hsame]
      · -- the copy is gone, and none comes any more
        obtain ⟨f, hmem, -⟩ | ⟨-, hsame⟩ := x.unstaged_after (x.unstaged_of_failed s e) rest
        · exact absurd ⟨[], e, rest, f, rfl, hmem⟩ hkept
        · rw [hsame]
          exact x.untouched s _ nofun
      · have hsame := x.untouched s r fun f => hother (.ok f)
        have hstaged : x.Staged (told s r) := by
          obtain ⟨g, hcopy, htext⟩ := h
          exact ⟨g, by rw [x.kept s r hother, hcopy], by rw [hsame]; exact htext⟩
        rw [ih hstaged (hsame ▸ hlater) hrest, hsame]

/-- After a copy that could not be had, the next one is filled in, whatever was there. -/
theorem lost_after (s : σ) {responses : List Response} (hlost : CopyLost responses) :
    ∃ f, .function (.ok f) ∈ responses ∧
      x.text (x.input (responses.foldl told s)) = x.own f := by
  obtain ⟨before, e, after, f, rfl, hmem⟩ := hlost
  rw [List.foldl_append, List.foldl_cons]
  obtain ⟨g, hg, htext⟩ | ⟨hnone, -⟩ :=
    x.unstaged_after (x.unstaged_of_failed (before.foldl told s) e) after
  · exact ⟨g, List.mem_append_right _ (List.mem_cons_of_mem _ hg), htext⟩
  · exact absurd hmem (hnone f)

/-- A change is still there exactly if no copy came after one that could not be had. -/
theorem text_after_iff (h : x.Staged s) {responses : List Response}
    (hdiffer : ∀ f, .function (.ok f) ∈ responses → x.own f ≠ x.text (x.input s)) :
    x.text (x.input (responses.foldl told s)) = x.text (x.input s) ↔ ¬ CopyLost responses := by
  constructor
  · intro hsame hlost
    obtain ⟨f, hmem, htext⟩ := x.lost_after s hlost
    exact hdiffer f hmem (htext.symm.trans hsame)
  · intro hkept
    rw [x.kept_after h hdiffer hkept]

end FilledInput

-- ==================================================== settings

namespace SettingsScreen

/-- The screen after a response. -/
def told (s : SettingsScreen) (r : Response) : SettingsScreen := (s.handleResponse r).1

theorem generalFailed_kept (s : SettingsScreen) (e : ApiError) :
    (s.generalFailed e).1.function = s.function ∧ (s.generalFailed e).1.name = s.name ∧
      (s.generalFailed e).1.description = s.description ∧
      (s.generalFailed e).1.enabled = s.enabled := by
  unfold generalFailed
  dsimp only
  split
  · split <;> exact ⟨rfl, rfl, rfl, rfl⟩
  · exact ⟨rfl, rfl, rfl, rfl⟩

/-- A response that is not about the copy of the function leaves it and what is filled in from it,
but for the variables. -/
theorem told_other (s : SettingsScreen) {r : Response} (hr : ∀ result, r ≠ .function result) :
    (s.told r).function = s.function ∧ (s.told r).name = s.name ∧
      (s.told r).description = s.description ∧ (s.told r).enabled = s.enabled := by
  unfold told handleResponse
  split
  case h_1 | h_2 => exact absurd rfl (hr _)
  case h_3 =>
      unfold functionUpdated
      dsimp only
      split
      · exact ⟨rfl, rfl, rfl, rfl⟩
      · exact ⟨rfl, rfl, rfl, rfl⟩
      · exact ⟨rfl, rfl, rfl, rfl⟩
      · exact generalFailed_kept { s with saving := false } _
  all_goals exact ⟨rfl, rfl, rfl, rfl⟩

/-- A response that brings no copy of the function leaves the inputs. -/
theorem told_inputs (s : SettingsScreen) {r : Response} (hr : ∀ f, r ≠ .function (.ok f)) :
    (s.told r).name = s.name ∧ (s.told r).description = s.description ∧
      (s.told r).enabled = s.enabled := by
  obtain ⟨f, rfl⟩ | ⟨e, rfl⟩ | hother := r.function_cases
  · exact absurd rfl (hr f)
  · exact ⟨rfl, rfl, rfl⟩
  · exact (s.told_other hother).2

/-- The name. -/
def namePlace : InputPlace SettingsScreen TextInput String :=
  ⟨function, name, TextInput.value, Function.name⟩

/-- The description; a function without one has an empty one. -/
def descriptionPlace : InputPlace SettingsScreen TextInput String :=
  ⟨function, description, TextInput.value, fun f => f.description.getD ""⟩

/-- The switch. -/
def switchPlace : InputPlace SettingsScreen Bool Bool :=
  ⟨function, enabled, fun on => on, fun f => !f.disabled⟩

theorem editedName_eq (s : SettingsScreen) : s.editedName = namePlace.change? s := rfl

theorem editedDescription_eq (s : SettingsScreen) :
    s.editedDescription = descriptionPlace.change? s := rfl

/-- What would be saved of the switch is the opposite of what it shows. -/
theorem statusChange_eq (s : SettingsScreen) :
    s.statusChange = (switchPlace.change? s).map not := by
  have hoff (f : Function) : (if s.enabled = f.disabled then some (!s.enabled) else none) =
      (if s.enabled ≠ !f.disabled then some s.enabled else none).map not := by
    cases s.enabled <;> cases f.disabled <;> rfl
  show s.function.get?.bind _ = (s.function.get?.bind _).map not
  rw [Option.map_bind]
  exact congrArg s.function.get?.bind (funext hoff)

theorem value_ofString (t : String) : (TextInput.ofString t).value = t := by
  simp [TextInput.ofString, TextInput.value]

/-- The name as an input. -/
def nameInput : FilledInput told TextInput String where
  toInputPlace := namePlace
  loaded _ _ := rfl
  failed _ _ := rfl
  kept s _ h := (s.told_other h).1
  untouched s _ h := (s.told_inputs h).1
  left _ _ h := namePlace.left_of_seeded rfl h
  filled _ f h := (congrArg TextInput.value (namePlace.filled_of_seeded rfl h)).trans
    (value_ofString f.name)

/-- The description as an input. -/
def descriptionInput : FilledInput told TextInput String where
  toInputPlace := descriptionPlace
  loaded _ _ := rfl
  failed _ _ := rfl
  kept s _ h := (s.told_other h).1
  untouched s _ h := (s.told_inputs h).2.1
  left _ _ h := descriptionPlace.left_of_seeded rfl h
  filled _ f h := (congrArg TextInput.value (descriptionPlace.filled_of_seeded rfl h)).trans
    (value_ofString (f.description.getD ""))

theorem enabled_seed (s : SettingsScreen) (f : Function) : (s.seed f).enabled =
    if (switchPlace.change? s).isNone then !f.disabled else s.enabled := by
  show (if s.statusChange.isNone then !f.disabled else s.enabled) = _
  rw [statusChange_eq, Option.isNone_map]

/-- The switch as an input. -/
def switchInput : FilledInput told Bool Bool where
  toInputPlace := switchPlace
  loaded _ _ := rfl
  failed _ _ := rfl
  kept s _ h := (s.told_other h).1
  untouched s _ h := (s.told_inputs h).2.2
  left s f h := switchPlace.left_of_seeded (s.enabled_seed f) h
  filled s f h := switchPlace.filled_of_seeded (s.enabled_seed f) h

/-- Staged settings last as long as the screen has a copy of the function to compare them with.
Take the settings with any of the name, the description and the switch changed and not saved, and
any responses, none with a function that agrees with the change. What was changed is still there if
no copy of the function came after one that could not be had, and otherwise it is gone: a copy that
came was filled in over it. Whatever has come before, another copy of the function is filled in
where nothing was changed. -/
theorem staged_settings_last_until_copy_lost (s : SettingsScreen) (responses : List Response) :
    let last := responses.foldl told s
    (∀ t, s.editedName = some t → (∀ f, .function (.ok f) ∈ responses → f.name ≠ t) →
      (last.name.value = t ↔ ¬ CopyLost responses) ∧
        (¬ CopyLost responses → last.name = s.name) ∧
        (CopyLost responses →
          ∃ f, .function (.ok f) ∈ responses ∧ last.name.value = f.name)) ∧
    (∀ t, s.editedDescription = some t →
      (∀ f, .function (.ok f) ∈ responses → f.description.getD "" ≠ t) →
      (last.description.value = t ↔ ¬ CopyLost responses) ∧
        (¬ CopyLost responses → last.description = s.description) ∧
        (CopyLost responses →
          ∃ f, .function (.ok f) ∈ responses ∧ last.description.value = f.description.getD "")) ∧
    (∀ disabled, s.statusChange = some disabled →
      (∀ f, .function (.ok f) ∈ responses → f.disabled ≠ disabled) →
      (last.enabled = s.enabled ↔ ¬ CopyLost responses)) ∧
    ∀ f, let next := last.told (.function (.ok f))
      (last.editedName = none → next.name.value = f.name) ∧
      (last.editedDescription = none → next.description.value = f.description.getD "") ∧
      (last.statusChange = none → next.enabled = !f.disabled) := by
  intro last
  refine ⟨fun t hedited hdiffer => ?_, fun t hedited hdiffer => ?_,
    fun disabled hedited hdiffer => ?_, fun f => ⟨fun h => ?_, fun h => ?_, fun h => ?_⟩⟩
  · rw [editedName_eq] at hedited
    obtain ⟨hstaged, rfl⟩ := namePlace.change?_eq_some.mp hedited
    exact ⟨nameInput.text_after_iff hstaged hdiffer, nameInput.kept_after hstaged hdiffer,
      nameInput.lost_after s⟩
  · rw [editedDescription_eq] at hedited
    obtain ⟨hstaged, rfl⟩ := descriptionPlace.change?_eq_some.mp hedited
    exact ⟨descriptionInput.text_after_iff hstaged hdiffer,
      descriptionInput.kept_after hstaged hdiffer, descriptionInput.lost_after s⟩
  · rw [statusChange_eq] at hedited
    obtain ⟨on, hon, rfl⟩ := Option.map_eq_some_iff.mp hedited
    obtain ⟨hstaged, rfl⟩ := switchPlace.change?_eq_some.mp hon
    refine switchInput.text_after_iff hstaged fun f hf heq => hdiffer f hf ?_
    show f.disabled = !s.enabled
    rw [← show (!f.disabled) = s.enabled from heq, Bool.not_not]
  · rw [editedName_eq] at h
    exact nameInput.filled last f (namePlace.change?_eq_none.mp h)
  · rw [editedDescription_eq] at h
    exact descriptionInput.filled last f (descriptionPlace.change?_eq_none.mp h)
  · rw [statusChange_eq, Option.map_eq_none_iff] at h
    exact switchInput.filled last f (switchPlace.change?_eq_none.mp h)

/-- Name, description and switch were changed. A save is told, another copy comes, and one after it
is not to be had: all three are as they were. -/
theorem staged_settings_outlive_failure :
    let copy (name : String) : Function := { (default : Function) with name }
    let s : SettingsScreen :=
      { id := "f", function := .loaded (copy "hello"), name := .ofString "hello!",
        description := .ofString "says hi", enabled := false, baseUrl := "" }
    let responses : List Response :=
      [.functionUpdated {} (.ok ()), .function (.ok (copy "bye")),
        .function (.error (.network "refused"))]
    let last := responses.foldl told s
    s.editedName = some "hello!" ∧ s.editedDescription = some "says hi" ∧
      s.statusChange = some true ∧ ¬ CopyLost responses ∧
      (∀ f, .function (.ok f) ∈ responses →
        f.name ≠ "hello!" ∧ f.description.getD "" ≠ "says hi" ∧ f.disabled ≠ true) ∧
      last.name = s.name ∧ last.description = s.description ∧ last.enabled = s.enabled := by
  intro copy s responses last
  have hkept : ¬ CopyLost responses :=
    not_copyLost_of_failed_last
      [.functionUpdated {} (.ok ()), .function (.ok (copy "bye"))] (.network "refused") (by simp)
  have hdiffer : ∀ f, .function (.ok f) ∈ responses →
      f.name ≠ "hello!" ∧ f.description.getD "" ≠ "says hi" ∧ f.disabled ≠ true := by
    intro f hf
    obtain rfl : f = copy "bye" := by simpa [responses] using hf
    decide
  obtain ⟨hname, hdescription, hswitch, -⟩ := staged_settings_last_until_copy_lost s responses
  exact ⟨by decide, by decide, by decide, hkept, hdiffer,
    (hname "hello!" (by decide) fun f hf => (hdiffer f hf).1).2.1 hkept,
    (hdescription "says hi" (by decide) fun f hf => (hdiffer f hf).2.1).2.1 hkept,
    (hswitch true (by decide) fun f hf => (hdiffer f hf).2.2).mpr hkept⟩

/-- The same changes, of which the function has none; but it is loaded twice, and the first time it
is not to be had. All three changes are gone. -/
theorem staged_settings_lost_with_copy :
    let copy : Function := { (default : Function) with name := "hello" }
    let s : SettingsScreen :=
      { id := "f", function := .loaded copy, name := .ofString "hello!",
        description := .ofString "says hi", enabled := false, baseUrl := "" }
    let responses : List Response :=
      [.function (.error (.network "refused")), .function (.ok copy)]
    let last := responses.foldl told s
    s.editedName = some "hello!" ∧ s.editedDescription = some "says hi" ∧
      s.statusChange = some true ∧
      (∀ f, .function (.ok f) ∈ responses →
        f.name ≠ "hello!" ∧ f.description.getD "" ≠ "says hi" ∧ f.disabled ≠ true) ∧
      last.name.value = "hello" ∧ last.description.value = "" ∧ last.enabled ≠ s.enabled := by
  intro copy s responses last
  refine ⟨by decide, by decide, by decide, fun f hf => ?_, by decide, by decide, by decide⟩
  obtain rfl : f = copy := by simpa [responses] using hf
  decide

end SettingsScreen

-- ==================================================== code

namespace CodeScreen

/-- The screen after a response. -/
def told (s : CodeScreen) (r : Response) : CodeScreen := (s.handleResponse r).1

/-- A response that is not about the copy of the function ends a save at most. -/
theorem told_other (s : CodeScreen) {r : Response} (hr : ∀ result, r ≠ .function result) :
    ∃ saving, s.told r = { s with saving } := by
  cases r with
  | function result => exact absurd rfl (hr result)
  | functionUpdated patch result => cases result <;> exact ⟨_, rfl⟩
  | _ => exact ⟨_, rfl⟩

theorem told_function (s : CodeScreen) {r : Response} (hr : ∀ result, r ≠ .function result) :
    (s.told r).function = s.function := by
  obtain ⟨_, heq⟩ := s.told_other hr
  rw [heq]

/-- A response that brings no copy of the function leaves the editor. -/
theorem told_editor (s : CodeScreen) {r : Response} (hr : ∀ f, r ≠ .function (.ok f)) :
    (s.told r).editor = s.editor := by
  obtain ⟨f, rfl⟩ | ⟨e, rfl⟩ | hother := r.function_cases
  · exact absurd rfl (hr f)
  · rfl
  · obtain ⟨_, heq⟩ := s.told_other hother
    rw [heq]

/-- No response begins or ends the editing. -/
theorem told_editing (s : CodeScreen) (r : Response) : (s.told r).editing = s.editing := by
  obtain ⟨f, rfl⟩ | ⟨e, rfl⟩ | hother := r.function_cases
  · rfl
  · rfl
  · obtain ⟨_, heq⟩ := s.told_other hother
    rw [heq]

theorem editing_after (s : CodeScreen) (responses : List Response) :
    (responses.foldl told s).editing = s.editing := by
  induction responses generalizing s with
  | nil => rfl
  | cons r rest ih => rw [List.foldl_cons, ih, s.told_editing]

/-- The code. -/
def codePlace : InputPlace CodeScreen TextArea String :=
  ⟨function, editor, TextArea.text, fun f => f.activeVersion.code⟩

theorem editedCode_eq (s : CodeScreen) : s.editedCode = codePlace.change? s := rfl

theorem editor_receive (s : CodeScreen) (f : Function) : (s.receive f).editor =
    if (codePlace.change? s).isNone then
      if s.editor.text ≠ f.activeVersion.code then .ofString f.activeVersion.code else s.editor
    else s.editor := by
  rw [← editedCode_eq]
  show (if s.editedCode.isNone && decide (s.editor.text ≠ f.activeVersion.code) then _ else _) = _
  cases s.editedCode.isNone <;> simp

/-- The editor as an input. -/
def codeInput : FilledInput told TextArea String where
  toInputPlace := codePlace
  loaded _ _ := rfl
  failed _ _ := rfl
  kept s _ h := s.told_function h
  untouched s _ h := s.told_editor h
  left s f h := codePlace.left_of_seeded (s.editor_receive f) h
  filled s f h := by
    show (s.receive f).editor.text = f.activeVersion.code
    rw [codePlace.filled_of_seeded (s.editor_receive f) h]
    split
    · exact TextArea.text_ofString _
    · next hsame => exact Decidable.not_not.mp hsame

/-- Unsaved code lasts as long as the screen has a copy of the function to compare it with. Take the
code with a text that differs from the active version, and any responses, none with a function of
that text. The editor is as it was, text and cursor, if no copy of the function came after one that
could not be had, and otherwise the text is gone: a copy that came was filled in over it. Whether
the code is being edited stays as it was in any case. -/
theorem unsaved_code_lasts_until_copy_lost (s : CodeScreen) (responses : List Response) {t : String}
    (hedited : s.editedCode = some t)
    (hdiffer : ∀ f, .function (.ok f) ∈ responses → f.activeVersion.code ≠ t) :
    let last := responses.foldl told s
    last.editing = s.editing ∧
      (last.editor.text = t ↔ ¬ CopyLost responses) ∧
      (¬ CopyLost responses → last.editor = s.editor) ∧
      (CopyLost responses →
        ∃ f, .function (.ok f) ∈ responses ∧ last.editor.text = f.activeVersion.code) := by
  rw [editedCode_eq] at hedited
  obtain ⟨hstaged, rfl⟩ := codePlace.change?_eq_some.mp hedited
  exact ⟨s.editing_after responses, codeInput.text_after_iff hstaged hdiffer,
    codeInput.kept_after hstaged hdiffer, codeInput.lost_after s⟩

/-- While code is being typed a save is told, the version that it made comes, and another load
fails: text and cursor are as they were. -/
theorem unsaved_code_outlives_failure :
    let copy (code : String) : Function :=
      { (default : Function) with activeVersion := ⟨1, code⟩ }
    let s : CodeScreen :=
      { id := "f", function := .loaded (copy "return 1"),
        editor := ⟨["return 12".toList], 0, 9⟩, editing := true }
    let responses : List Response :=
      [.functionUpdated {} (.ok ()), .function (.ok (copy "return 0")),
        .function (.error (.network "refused"))]
    let last := responses.foldl told s
    s.editedCode = some "return 12" ∧ ¬ CopyLost responses ∧
      (∀ f, .function (.ok f) ∈ responses → f.activeVersion.code ≠ "return 12") ∧
      last.editing = true ∧ last.editor = s.editor := by
  intro copy s responses last
  have hedited : s.editedCode = some "return 12" := by decide
  have hkept : ¬ CopyLost responses :=
    not_copyLost_of_failed_last
      [.functionUpdated {} (.ok ()), .function (.ok (copy "return 0"))] (.network "refused")
      (by simp)
  have hdiffer : ∀ f, .function (.ok f) ∈ responses → f.activeVersion.code ≠ "return 12" := by
    intro f hf
    obtain rfl : f = copy "return 0" := by simpa [responses] using hf
    decide
  obtain ⟨hediting, -, hsame, -⟩ := unsaved_code_lasts_until_copy_lost s responses hedited hdiffer
  exact ⟨hedited, hkept, hdiffer, hediting, hsame hkept⟩

/-- The same text, and a function that never has it; but it is loaded twice, and the first time it
is not to be had. The text is gone, and the cursor is at the start. -/
theorem unsaved_code_lost_with_copy :
    let copy : Function := { (default : Function) with activeVersion := ⟨1, "return 1"⟩ }
    let s : CodeScreen :=
      { id := "f", function := .loaded copy, editor := ⟨["return 12".toList], 0, 9⟩,
        editing := true }
    let responses : List Response :=
      [.function (.error (.network "refused")), .function (.ok copy)]
    let last := responses.foldl told s
    s.editedCode = some "return 12" ∧
      (∀ f, .function (.ok f) ∈ responses → f.activeVersion.code ≠ "return 12") ∧
      last.editor.text = "return 1" ∧ (last.editor.row, last.editor.col) = (0, 0) := by
  intro copy s responses last
  refine ⟨by decide, fun f hf => ?_, by decide, by decide⟩
  obtain rfl : f = copy := by simpa [responses] using hf
  decide

end CodeScreen

end FunctionConsole
