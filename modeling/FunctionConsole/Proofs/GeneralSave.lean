import FunctionConsole.Proofs.Identity
import FunctionConsole.Proofs.StagedEdits

/-!
# Saving the general fields

The name and the description of a function are saved together, in one patch that has what was
changed of them. Three computations have to agree for that: what counts as changed, what goes into
the patch, and what is filled in when the function comes back. All three compare the inputs with the
copy that the screen has at that moment, and nothing is remembered of what was sent.

`FunctionPatch.Difference` says what a patch has to be, and `FilledInput.settled` that an input is
at rest when a function comes that has its text, whatever came in between.
`general_save_sends_difference` is the whole save, from the key to the function that comes back.
-/

namespace FunctionConsole

-- ==================================================== patches

namespace FunctionPatch

/-- A function with a patch applied: what the patch has takes the place of what was there. -/
def applied (p : FunctionPatch) (f : Function) : Function :=
  { f with
    name := p.name.getD f.name
    description := p.description.or f.description
    disabled := p.disabled.getD f.disabled
    activeVersion := { f.activeVersion with code := p.code.getD f.activeVersion.code } }

/-- A patch has of a name and a description what differs from a function, and nothing else, and
makes them those of the function. -/
structure Difference (f : Function) (name description : String) (p : FunctionPatch) : Prop where
  name_set : p.name.isSome = true ↔ name ≠ f.name
  description_set : p.description.isSome = true ↔ description ≠ f.description.getD ""
  code : p.code = none
  disabled : p.disabled = none
  applied_name : (p.applied f).name = name
  applied_description : (p.applied f).description.getD "" = description

end FunctionPatch

-- ==================================================== inputs after a save

namespace FilledInput

variable {σ ι α : Type} {told : σ → Response → σ} (x : FilledInput told ι α)

/-- Responses make no change out of what was none. -/
theorem unstaged_through {s : σ} (h : ¬ x.Staged s) (responses : List Response) :
    ¬ x.Staged (responses.foldl told s) := by
  induction responses generalizing s with
  | nil => exact h
  | cons r rest ih => exact ih (x.unstaged_told h r)

/-- An input that differs from its copy has not been filled in since. -/
theorem unmoved_of_staged (s : σ) {responses : List Response}
    (h : x.Staged (responses.foldl told s)) : x.input (responses.foldl told s) = x.input s := by
  induction responses generalizing s with
  | nil => rfl
  | cons r rest ih =>
      rw [List.foldl_cons] at h ⊢
      rw [ih (told s r) h]
      -- had the first response filled it in, it would not differ at the end
      by_cases hr : ∃ f, r = .function (.ok f)
      · obtain ⟨f, rfl⟩ := hr
        by_cases hstaged : x.Staged s
        · exact x.left s f hstaged
        · exact absurd h (x.unstaged_through (x.unstaged_told hstaged _) rest)
      · exact x.untouched s r fun f heq => hr ⟨f, heq⟩

/-- Whatever has come: when a function comes that has the text that an input had at first, the input
has it again, and it counts as no change. -/
theorem settled (s : σ) (responses : List Response) {f : Function}
    (hown : x.own f = x.text (x.input s)) :
    let last := told (responses.foldl told s) (.function (.ok f))
    x.text (x.input last) = x.text (x.input s) ∧ ¬ x.Staged last := by
  intro last
  have htext : x.text (x.input last) = x.text (x.input s) := by
    by_cases hstaged : x.Staged (responses.foldl told s)
    · rw [x.left _ f hstaged, x.unmoved_of_staged s hstaged]
    · rw [x.filled _ f hstaged, hown]
  refine ⟨htext, ?_⟩
  rintro ⟨g, hcopy, hne⟩
  rw [x.loaded] at hcopy
  cases hcopy
  exact hne (htext.trans hown.symm)

end FilledInput

-- ==================================================== the save

namespace SettingsScreen

/-- Name and description are those of a function. -/
def Shows (s : SettingsScreen) (f : Function) : Prop :=
  s.name.value = f.name ∧ s.description.value = f.description.getD ""

/-- The name differs from a function's, and is blank. -/
def RenamesToBlank (s : SettingsScreen) (f : Function) : Prop :=
  s.name.value ≠ f.name ∧ Text.isAllBlank s.name.value = true

instance (s : SettingsScreen) (f : Function) : Decidable (s.Shows f) :=
  inferInstanceAs (Decidable (_ ∧ _))

instance (s : SettingsScreen) (f : Function) : Decidable (s.RenamesToBlank f) :=
  inferInstanceAs (Decidable (_ ∧ _))

/-- What would be saved of the general fields. -/
def generalPatch (s : SettingsScreen) : FunctionPatch :=
  { name := s.editedName, description := s.editedDescription }

section

variable {s : SettingsScreen} {f : Function} (hcopy : s.function = .loaded f)
include hcopy

theorem editedName_of_copy :
    s.editedName = if s.name.value ≠ f.name then some s.name.value else none := by
  rw [editedName, hcopy]
  rfl

theorem editedDescription_of_copy : s.editedDescription =
    if s.description.value ≠ f.description.getD "" then some s.description.value else none := by
  rw [editedDescription, hcopy]
  rfl

/-- What would be saved is the difference between the copy and the inputs. -/
theorem generalPatch_difference :
    s.generalPatch.Difference f s.name.value s.description.value where
  name_set := by
    rw [generalPatch, editedName_of_copy hcopy]
    by_cases hname : s.name.value = f.name <;> simp [hname]
  description_set := by
    rw [generalPatch, editedDescription_of_copy hcopy]
    by_cases hdescription : s.description.value = f.description.getD "" <;> simp [hdescription]
  code := rfl
  disabled := rfl
  applied_name := by
    rw [FunctionPatch.applied, generalPatch, editedName_of_copy hcopy]
    by_cases hname : s.name.value = f.name <;> simp [hname]
  applied_description := by
    rw [FunctionPatch.applied, generalPatch, editedDescription_of_copy hcopy]
    by_cases hdescription : s.description.value = f.description.getD "" <;> simp [hdescription]

theorem generalPatch_isEmpty : s.generalPatch.isEmpty = true ↔ s.Shows f := by
  obtain ⟨hname, hdescription, hcode, hdisabled, -⟩ := generalPatch_difference hcopy
  rw [FunctionPatch.isEmpty, hcode, hdisabled]
  simp only [Option.isNone_none, Bool.and_true, Bool.and_eq_true, Option.isNone_iff_eq_none,
    ← Option.not_isSome_iff_eq_none, hname, hdescription, ne_eq, Decidable.not_not]
  rfl

theorem generalPatch_renamesToBlank :
    s.generalPatch.name.any Text.isAllBlank = true ↔ s.RenamesToBlank f := by
  rw [generalPatch, editedName_of_copy hcopy, RenamesToBlank]
  by_cases hname : s.name.value = f.name <;> simp [hname]

end

/-- Saving leaves the inputs and the copy that they are compared with. -/
theorem saveGeneral_kept (s : SettingsScreen) :
    s.saveGeneral.1.name = s.name ∧ s.saveGeneral.1.description = s.description := by
  unfold saveGeneral
  split
  · exact ⟨rfl, rfl⟩
  · dsimp only
    split
    · exact ⟨rfl, rfl⟩
    · split <;> exact ⟨rfl, rfl⟩

/-- A free screen sends the patch unless it is empty or makes the name blank. -/
theorem saveGeneral_requests {s : SettingsScreen} (hfree : s.saving = false) :
    s.saveGeneral.2.requests =
      if s.generalPatch.isEmpty ∨ s.generalPatch.name.any Text.isAllBlank = true then []
      else [.updateFunction s.id s.generalPatch] := by
  rw [saveGeneral, hfree]
  show (if s.generalPatch.isEmpty then _ else if s.generalPatch.name.any _ then _ else _ :
    SettingsScreen × Effects).2.requests = _
  by_cases hempty : s.generalPatch.isEmpty = true
  · rw [if_pos hempty, if_pos (.inl hempty)]
    rfl
  · rw [if_neg hempty]
    by_cases hblank : s.generalPatch.name.any Text.isAllBlank = true
    · rw [if_pos hblank, if_pos (.inr hblank)]
      rfl
    · rw [if_neg hblank, if_neg (not_or.mpr ⟨hempty, hblank⟩)]
      rfl

/-- A response is for the same function. -/
theorem id_told (s : SettingsScreen) (r : Response) : (s.told r).id = s.id :=
  Identity.settings.inj ((Screen.settings s).handleResponse_identity r)

theorem id_after (s : SettingsScreen) (responses : List Response) :
    (responses.foldl told s).id = s.id := by
  induction responses generalizing s with
  | nil => rfl
  | cons r rest ih => rw [List.foldl_cons, ih, s.id_told]

/-- When the general fields were saved, the function is loaded again. -/
theorem saved_reloads (s : SettingsScreen) {patch : FunctionPatch} (h : patch.disabled = none) :
    (s.handleResponse (.functionUpdated patch (.ok ()))).2.requests = [.getFunction s.id] := by
  obtain ⟨name, description, code, disabled⟩ := patch
  obtain rfl : disabled = none := h
  rfl

/-- When a function with the texts of the inputs comes, they show them, and nothing is left to save,
whatever has come before. -/
theorem general_settled (s : SettingsScreen) (responses : List Response) {f : Function}
    (hname : f.name = s.name.value) (hdescription : f.description.getD "" = s.description.value) :
    let last := (responses.foldl told s).told (.function (.ok f))
    last.editedName = none ∧ last.editedDescription = none ∧ last.Shows f := by
  intro last
  obtain ⟨hnameText, hnameRest⟩ := nameInput.settled s responses hname
  obtain ⟨hdescriptionText, hdescriptionRest⟩ := descriptionInput.settled s responses hdescription
  refine ⟨?_, ?_, hnameText.trans hname.symm, hdescriptionText.trans hdescription.symm⟩
  · rw [editedName_eq]
    exact namePlace.change?_eq_none.mpr hnameRest
  · rw [editedDescription_eq]
    exact descriptionPlace.change?_eq_none.mpr hdescriptionRest

/-- The answer to a save, with any responses before it and after it, and then the function with what
was sent. -/
theorem saveGeneral_settles (s : SettingsScreen) {f f' : Function} {patch : FunctionPatch}
    (hpatch : patch.Difference f s.name.value s.description.value) (before after : List Response)
    (hname : f'.name = (patch.applied f).name)
    (hdescription : f'.description = (patch.applied f).description) :
    let waiting := before.foldl told s.saveGeneral.1
    let saved := waiting.handleResponse (.functionUpdated patch (.ok ()))
    let last := (after.foldl told saved.1).told (.function (.ok f'))
    saved.2.requests = [.getFunction s.id] ∧
      last.editedName = none ∧ last.editedDescription = none ∧
      last.name.value = s.name.value ∧ last.description.value = s.description.value := by
  intro waiting saved last
  obtain ⟨hkeptName, hkeptDescription⟩ := s.saveGeneral_kept
  rw [hpatch.applied_name] at hname
  have htext : f'.description.getD "" = s.description.value := by
    rw [hdescription, hpatch.applied_description]
  have hlast : last = ((before ++ .functionUpdated patch (.ok ()) :: after).foldl told
      s.saveGeneral.1).told (.function (.ok f')) := by
    rw [List.foldl_append, List.foldl_cons]
    rfl
  obtain ⟨hnoName, hnoDescription, hshows⟩ := general_settled s.saveGeneral.1
    (before ++ .functionUpdated patch (.ok ()) :: after) (f := f')
    (by rw [hname, hkeptName]) (by rw [htext, hkeptDescription])
  rw [← hlast] at hnoName hnoDescription hshows
  refine ⟨?_, hnoName, hnoDescription, hshows.1.trans hname, hshows.2.trans htext⟩
  rw [saved_reloads _ hpatch.disabled, id_after, s.saveGeneral_about.1]

/-- A save of the general fields sends exactly the difference. On a screen with a copy of the
function that is not saving, nothing goes out if both texts are those of the copy or the name was
changed to a blank one; otherwise one request does, for the function of the screen, with what
differs. When the save is told the function is loaded again; and when it comes with what was sent,
then the inputs show it and nothing counts as changed, whatever other responses came in between. -/
theorem general_save_sends_difference {s : SettingsScreen} {f : Function}
    (hcopy : s.function = .loaded f) (hfree : s.saving = false) :
    (s.saveGeneral.2.requests = [] ↔ s.Shows f ∨ s.RenamesToBlank f) ∧
    (¬ (s.Shows f ∨ s.RenamesToBlank f) → ∃ patch : FunctionPatch,
      s.saveGeneral.2.requests = [.updateFunction s.id patch] ∧
      patch.Difference f s.name.value s.description.value ∧
      ∀ (before after : List Response) (f' : Function),
        f'.name = (patch.applied f).name → f'.description = (patch.applied f).description →
        let waiting := before.foldl told s.saveGeneral.1
        let saved := waiting.handleResponse (.functionUpdated patch (.ok ()))
        let last := (after.foldl told saved.1).told (.function (.ok f'))
        saved.2.requests = [.getFunction s.id] ∧
          last.editedName = none ∧ last.editedDescription = none ∧
          last.name.value = s.name.value ∧ last.description.value = s.description.value) := by
  have hpatch := generalPatch_difference hcopy
  have hrequests := saveGeneral_requests hfree
  have hheld : s.generalPatch.isEmpty = true ∨ s.generalPatch.name.any Text.isAllBlank = true ↔
      s.Shows f ∨ s.RenamesToBlank f :=
    or_congr (generalPatch_isEmpty hcopy) (generalPatch_renamesToBlank hcopy)
  have hsent (hsends : ¬ (s.Shows f ∨ s.RenamesToBlank f)) :
      s.saveGeneral.2.requests = [.updateFunction s.id s.generalPatch] := by
    rw [hrequests, if_neg (mt hheld.mp hsends)]
  refine ⟨⟨fun hnone => ?_, fun hnothing => ?_⟩, fun hsends =>
    ⟨s.generalPatch, hsent hsends, hpatch, fun before after f' hname hdescription =>
      s.saveGeneral_settles hpatch before after hname hdescription⟩⟩
  · by_cases hnothing : s.Shows f ∨ s.RenamesToBlank f
    · exact hnothing
    · rw [hsent hnothing] at hnone
      cases hnone
  · rw [hrequests, if_pos (hheld.mpr hnothing)]

/-- A name is changed and saved. The copy that the screen had comes once more before the one with
the new name does: the name stays, and is saved. -/
theorem new_name_is_saved :
    let f : Function := { (default : Function) with id := "f", name := "hello" }
    let s : SettingsScreen :=
      { id := "f", function := .loaded f, name := .ofString "hello!", baseUrl := "" }
    let patch : FunctionPatch := { name := some "hello!" }
    let responses : List Response :=
      [.functionUpdated patch (.ok ()), .function (.ok f), .function (.ok (patch.applied f))]
    let last := responses.foldl told s.saveGeneral.1
    s.function = .loaded f ∧ s.saving = false ∧
      s.saveGeneral.2.requests = [.updateFunction "f" patch] ∧
      last.editedName = none ∧ last.editedDescription = none ∧ last.name.value = "hello!" := by
  intro f s patch responses last
  have hsends : ¬ (s.Shows f ∨ s.RenamesToBlank f) := by decide
  obtain ⟨patch', hsent, -, hsettled⟩ :=
    (general_save_sends_difference (s := s) (f := f) rfl rfl).2 hsends
  have hpatch : s.saveGeneral.2.requests = [.updateFunction "f" patch] := by decide +kernel
  obtain rfl : patch = patch' := by
    rw [hpatch] at hsent
    cases hsent
    rfl
  obtain ⟨-, hname, hdescription, htext, -⟩ :=
    hsettled [] [.function (.ok f)] (patch.applied f) rfl rfl
  exact ⟨rfl, rfl, hpatch, hname, hdescription, htext⟩

end SettingsScreen

end FunctionConsole
