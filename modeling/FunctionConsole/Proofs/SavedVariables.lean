import FunctionConsole.Proofs.SavedRows
import FunctionConsole.Proofs.StagedEdits

/-!
# Variables edited during a save

The environment editor can be typed in while its variables are being saved. The request has the
variables as they were when it went out; the answer to it has no variables at all, and takes the
rows for saved as they are when it comes (`EnvEditor.commit`). So nothing is left in them that tells
them from the server's copy, and the copy that is loaded next replaces them.
`variables_edited_during_save` says what then becomes of an edit: it is kept exactly if it makes no
difference to what was sent.
-/

namespace FunctionConsole

namespace EnvEditor

/-- A variable with neither name nor value is never saved. -/
theorem named_of_mem_collect {e : EnvEditor} {v : String × String} (h : v ∈ e.collect.entries) :
    v ≠ ("", "") := by
  obtain ⟨r, hr, rfl⟩ := List.mem_map.mp (EnvVars.mem_ofList_iff.mp h).mem
  have hkept := (List.mem_filter.mp hr).2
  rw [EnvRow.isKept, TextInput.isEmpty_eq, TextInput.isEmpty_eq] at hkept
  intro hentry
  obtain ⟨hkey, hvalue⟩ := Prod.mk.inj hentry
  simp [hkey, hvalue] at hkept

/-- In the editor of the server's copy there is nothing to save. -/
theorem hasChanges_ofVars (vars : EnvVars) : (ofVars vars).hasChanges = false := by
  simpa [hasChanges] using unchanged_ofVars vars

/-- What was saved and has come back would be saved again. -/
theorem collect_ofVars_collect (e : EnvEditor) : (ofVars e.collect).collect = e.collect := by
  apply EnvVars.eq_of_entries
  rw [collect_of_unchanged (unchanged_ofVars _) (entries_ofVars _), List.filter_eq_self]
  intro v hv
  simpa using named_of_mem_collect hv

/-- Taking the rows for saved does not change what would be saved. -/
theorem collect_commit (e : EnvEditor) : e.commit.collect = e.collect := collect_ofVars_collect e

/-- Rows that are taken for saved differ from nothing. -/
theorem hasChanges_commit (e : EnvEditor) : e.commit.hasChanges = false :=
  hasChanges_ofVars e.collect

end EnvEditor

namespace SettingsScreen

/-- The screen after a key; one that is not its own leaves it as it is. -/
def pressed (s : SettingsScreen) (key : Key) : SettingsScreen :=
  ((s.handleKey key).map Prod.fst).getD s

/-- A save sends what the rows have when it goes out. -/
theorem saveEnv_sent {s : SettingsScreen} {vars : EnvVars}
    (h : s.saveEnv.2.requests = [.updateEnv s.id vars]) : vars = s.env.collect := by
  unfold saveEnv at h
  split at h
  · cases h
  · split at h
    · cases h
      rfl
    · cases h

/-- A copy of the function replaces the rows unless one of them has a change. -/
theorem env_told (s : SettingsScreen) (f : Function) :
    (s.told (.function (.ok f))).env = if s.env.hasChanges then s.env else .ofVars f.envVars := rfl

/-- What becomes of edits made during a save. Take a save of the variables that went out, any keys
until it is answered, the answer, and the copy of the function with the variables that were sent.
The answer leaves what would be saved as it is, but takes it for saved. So the copy is filled in
over it: what is shown then is what was sent, without any change, and the edits are kept exactly if
they made no difference to it. Only where keys after the answer have changed something, the rows
stay, the edits from before among them. -/
theorem variables_edited_during_save (s : SettingsScreen) {vars : EnvVars} (keys : List Key)
    (f : Function) (hsent : s.saveEnv.2.requests = [.updateEnv s.id vars])
    (hcopy : f.envVars = vars) :
    let typed := keys.foldl pressed s.saveEnv.1
    let saved := typed.told (.envUpdated (.ok ()))
    let reloaded := saved.told (.function (.ok f))
    saved.env.collect = typed.env.collect ∧ saved.env.hasChanges = false ∧
      reloaded.env = .ofVars vars ∧ reloaded.env.collect = vars ∧
      reloaded.env.hasChanges = false ∧
      (reloaded.env.collect = typed.env.collect ∧
          (typed.env.collect ≠ vars → reloaded.env.hasChanges = true) ↔
        typed.env.collect = vars) ∧
      ∀ later : List Key, let edited := later.foldl pressed saved
        edited.env.hasChanges = true → (edited.told (.function (.ok f))).env = edited.env := by
  intro typed saved reloaded
  have hunmarked : saved.env.hasChanges = false := typed.env.hasChanges_commit
  have hrows : reloaded.env = .ofVars vars := by
    rw [env_told, hunmarked, hcopy]
    rfl
  have hcollect : reloaded.env.collect = vars := by
    rw [hrows, saveEnv_sent hsent, EnvEditor.collect_ofVars_collect]
  have hclean : reloaded.env.hasChanges = false := by rw [hrows, EnvEditor.hasChanges_ofVars]
  refine ⟨typed.env.collect_commit, hunmarked, hrows, hcollect, hclean, ?_, fun later h => ?_⟩
  · rw [hcollect]
    exact ⟨fun h => h.1.symm, fun h => ⟨h.symm, fun hne => absurd h hne⟩⟩
  · rw [env_told, h]
    rfl

/-- A letter is typed during a save and taken out again: what was typed before is kept. -/
theorem edit_undone_during_save :
    let copy (vars : EnvVars) : Function := { (default : Function) with envVars := vars }
    let old : EnvVars := .ofList [("A", "1")]
    let vars : EnvVars := .ofList [("A", "1"), ("K", "")]
    let opened : SettingsScreen :=
      { id := "f", function := .loaded (copy old), sect := .environment, env := .ofVars old,
        baseUrl := "" }
    let s := [.ctrl 'n', .char 'K'].foldl pressed opened
    let typed := [.char 'x', .backspace].foldl pressed s.saveEnv.1
    let reloaded := (typed.told (.envUpdated (.ok ()))).told (.function (.ok (copy vars)))
    s.saveEnv.2.requests = [.updateEnv s.id vars] ∧ typed.env.collect = vars ∧
      reloaded.env.collect = typed.env.collect := by
  intro copy old vars opened s typed reloaded
  have hsent : s.saveEnv.2.requests = [.updateEnv s.id vars] := by decide +kernel
  have htyped : typed.env.collect = vars := by decide +kernel
  obtain ⟨-, -, -, -, -, hkept, -⟩ :=
    variables_edited_during_save s [.char 'x', .backspace] (copy vars) hsent rfl
  exact ⟨hsent, htyped, (hkept.mpr htyped).1⟩

/-- The same save, and the letter stays: what is shown in the end does not have it, and has no
change. -/
theorem edit_lost_during_save :
    let copy (vars : EnvVars) : Function := { (default : Function) with envVars := vars }
    let old : EnvVars := .ofList [("A", "1")]
    let vars : EnvVars := .ofList [("A", "1"), ("K", "")]
    let opened : SettingsScreen :=
      { id := "f", function := .loaded (copy old), sect := .environment, env := .ofVars old,
        baseUrl := "" }
    let s := [.ctrl 'n', .char 'K'].foldl pressed opened
    let typed := [.char 'x'].foldl pressed s.saveEnv.1
    let reloaded := (typed.told (.envUpdated (.ok ()))).told (.function (.ok (copy vars)))
    s.saveEnv.2.requests = [.updateEnv s.id vars] ∧
      typed.env.collect = .ofList [("A", "1"), ("Kx", "")] ∧
      reloaded.env.collect = vars ∧ reloaded.env.hasChanges = false ∧
      reloaded.env.collect ≠ typed.env.collect := by
  decide +kernel

end SettingsScreen

end FunctionConsole
