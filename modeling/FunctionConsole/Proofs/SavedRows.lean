import FunctionConsole.Proofs.CleanEditor
import Mathlib.Data.List.Induction
import Mathlib.Data.List.Nodup

/-!
# Saved rows

The variables that are saved are a map, and the rows of the editor are a list. Rows are kept unless
they are marked removed or empty, but nothing keeps two of them from having the same key, and then
only the last is saved (`EnvVars.mem_ofList_iff`). When the answer comes the rows are made anew from
what was saved, so that the others are gone from the editor too.

`saved_rows_are_last_of_key` says which rows are saved and what the editor has afterwards, and that
no kept row is lost exactly if no two of them have the same key.
-/

namespace FunctionConsole

/-- An entry of a list behind which none has the same key. -/
def LastOfKey (l : List (String × String)) (v : String × String) : Prop :=
  ∃ before after, l = before ++ v :: after ∧ ∀ w ∈ after, w.1 ≠ v.1

section

variable {l : List (String × String)} {v : String × String}

theorem not_lastOfKey_nil : ¬ LastOfKey [] v := by
  rintro ⟨before, after, heq, -⟩
  simp at heq

/-- The entry at the end is the last one of its key, and those of other keys stay what they are. -/
theorem lastOfKey_concat {e : String × String} :
    LastOfKey (l ++ [e]) v ↔ v = e ∨ LastOfKey l v ∧ v.1 ≠ e.1 := by
  constructor
  · rintro ⟨before, after, heq, hafter⟩
    -- nothing comes after the entry, or what was added does
    rcases List.eq_nil_or_concat after with rfl | ⟨after, last, rfl⟩
    · obtain ⟨-, hlast⟩ := List.append_inj' heq rfl
      exact .inl (List.singleton_inj.mp hlast).symm
    · rw [List.concat_eq_append] at heq hafter
      rw [← List.cons_append, ← List.append_assoc] at heq
      obtain ⟨rfl, hlast⟩ := List.append_inj' heq rfl
      obtain rfl := List.singleton_inj.mp hlast
      refine .inr ⟨⟨before, after, rfl, fun w hw => ?_⟩, (hafter e (by simp)).symm⟩
      exact hafter w (List.mem_append_left _ hw)
  · rintro (rfl | ⟨⟨before, after, rfl, hafter⟩, hne⟩)
    · exact ⟨l, [], rfl, fun w hw => by cases hw⟩
    · refine ⟨before, after ++ [e], by simp, fun w hw => ?_⟩
      rcases List.mem_append.mp hw with hw | hw
      · exact hafter w hw
      · obtain rfl := List.mem_singleton.mp hw
        exact hne.symm

theorem LastOfKey.mem (h : LastOfKey l v) : v ∈ l := by
  obtain ⟨before, after, rfl, -⟩ := h
  simp

/-- Among entries with different keys each is the last one of its key. -/
theorem lastOfKey_iff_mem (h : (l.map Prod.fst).Nodup) : LastOfKey l v ↔ v ∈ l := by
  constructor
  · exact LastOfKey.mem
  · intro hv
    obtain ⟨before, after, rfl⟩ := List.append_of_mem hv
    refine ⟨before, after, rfl, fun w hw heq => ?_⟩
    rw [List.map_append, List.map_cons] at h
    have hnot := (List.nodup_cons.mp (List.nodup_append.mp h).2.1).1
    exact hnot (heq ▸ List.mem_map_of_mem hw)

end

namespace EnvVars

/-- An entry that is put into ascending ones takes the place of the one with its key. -/
theorem mem_putField_iff {key value : String} {l : List (String × String)} {v : String × String}
    (h : l.Pairwise fun a b => a.1 < b.1) :
    v ∈ putField key value l ↔ v = (key, value) ∨ v ∈ l ∧ v.1 ≠ key := by
  induction l with
  | nil => simp [putField]
  | cons a rest ih =>
      obtain ⟨k, old⟩ := a
      obtain ⟨hbelow, hrest⟩ := List.pairwise_cons.mp h
      -- the key is that of the head, or comes before it, or has its place further on
      have hrestKey : ∀ w ∈ rest, w.1 ≠ k := fun w hw => (String.ne_of_lt (hbelow w hw)).symm
      unfold putField
      split
      · next heq =>
          subst heq
          rw [List.mem_cons, List.mem_cons]
          constructor
          · rintro (rfl | hv)
            · exact .inl rfl
            · exact .inr ⟨.inr hv, hrestKey v hv⟩
          · rintro (rfl | ⟨rfl | hv, hne⟩)
            · exact .inl rfl
            · exact absurd rfl hne
            · exact .inr hv
      · next hne =>
          split
          · next hlt =>
              rw [List.mem_cons]
              refine or_congr_right ⟨fun hv => ⟨hv, ?_⟩, And.left⟩
              rcases List.mem_cons.mp hv with rfl | hv
              · exact Ne.symm hne
              · exact (String.ne_of_lt (String.lt_trans hlt (hbelow v hv))).symm
          · rw [List.mem_cons, ih hrest, List.mem_cons]
            constructor
            · rintro (rfl | rfl | ⟨hv, hother⟩)
              · exact .inr ⟨.inl rfl, Ne.symm hne⟩
              · exact .inl rfl
              · exact .inr ⟨.inr hv, hother⟩
            · rintro (rfl | ⟨rfl | hv, hother⟩)
              · exact .inr (.inl rfl)
              · exact .inl rfl
              · exact .inr (.inr ⟨hv, hother⟩)

theorem mem_insert_iff {key value : String} {vars : EnvVars} {v : String × String} :
    v ∈ (vars.insert key value).entries ↔ v = (key, value) ∨ v ∈ vars.entries ∧ v.1 ≠ key :=
  mem_putField_iff vars.ascending

/-- The map of some entries has of every key the last one. -/
theorem mem_ofList_iff {l : List (String × String)} {v : String × String} :
    v ∈ (ofList l).entries ↔ LastOfKey l v := by
  -- from the end: the last entry is put in last
  induction l using List.reverseRecOn with
  | nil => exact iff_of_false List.not_mem_nil not_lastOfKey_nil
  | append_singleton l e ih =>
      rw [ofList, List.foldl_concat, lastOfKey_concat, ← ih]
      exact mem_insert_iff

/-- The keys of a map are different. -/
theorem nodup_keys (vars : EnvVars) : (vars.entries.map Prod.fst).Nodup :=
  List.pairwise_map.mpr (vars.ascending.imp String.ne_of_lt)

/-- The map of some entries has all of them exactly if their keys are different. -/
theorem ofList_perm_iff {l : List (String × String)} :
    (ofList l).entries.Perm l ↔ (l.map Prod.fst).Nodup := by
  constructor
  · intro hperm
    exact (hperm.map Prod.fst).nodup_iff.mp (ofList l).nodup_keys
  · intro hnodup
    rw [List.perm_ext_iff_of_nodup (List.Nodup.of_map Prod.fst (ofList l).nodup_keys)
      (List.Nodup.of_map Prod.fst hnodup)]
    intro v
    rw [mem_ofList_iff, lastOfKey_iff_mem hnodup]

end EnvVars

namespace EnvEditor

/-- The variables of the rows that are not marked removed and have a key or a value. -/
def kept (e : EnvEditor) : List (String × String) :=
  (e.rows.filter fun r => r.state ≠ .removed ∧ (r.key.value ≠ "" ∨ r.value.value ≠ "")).map
    EnvRow.entry

theorem collect_eq_ofList_kept (e : EnvEditor) : e.collect = .ofList e.kept := by
  have hkept : EnvRow.isKept = fun r : EnvRow =>
      decide (r.state ≠ .removed ∧ (r.key.value ≠ "" ∨ r.value.value ≠ "")) := by
    funext r
    rw [Bool.eq_iff_iff, decide_eq_true_iff]
    simp [EnvRow.isKept, TextInput.isEmpty_eq]
  rw [collect, hkept]
  rfl

/-- The rows of the server's copy are unchanged. -/
theorem unchanged_ofVars (vars : EnvVars) : ∀ r ∈ (ofVars vars).rows, r.state = .unchanged := by
  intro r hr
  obtain ⟨v, -, rfl⟩ := List.mem_map.mp hr
  rfl

/-- The editor of the server's copy has its variables. -/
theorem entries_ofVars (vars : EnvVars) : (ofVars vars).rows.map EnvRow.entry = vars.entries := by
  rw [ofVars, List.map_map]
  exact (List.map_congr_left fun v _ => entry_ofEntry v).trans (List.map_id _)

/-- What is saved are the last rows of their keys among those that are kept: all of these exactly if
their keys are different. When they were saved, the editor has just them, in the order of their
keys, all unchanged, and one of them is selected if there is any. -/
theorem saved_rows_are_last_of_key (e : EnvEditor) :
    (∀ v, v ∈ e.collect.entries ↔ LastOfKey e.kept v) ∧
    (e.collect.entries.Perm e.kept ↔ (e.kept.map Prod.fst).Nodup) ∧
    e.commit.rows.map EnvRow.entry = e.collect.entries ∧
    (∀ r ∈ e.commit.rows, r.state = .unchanged) ∧
    (e.kept ≠ [] → e.commit.selected < e.commit.rows.length) := by
  have hmem : ∀ v, v ∈ e.collect.entries ↔ LastOfKey e.kept v := by
    intro v
    rw [collect_eq_ofList_kept, EnvVars.mem_ofList_iff]
  have hentries : e.commit.rows.map EnvRow.entry = e.collect.entries := entries_ofVars e.collect
  refine ⟨hmem, ?_, hentries, unchanged_ofVars e.collect, fun hkept => ?_⟩
  · rw [collect_eq_ofList_kept]
    exact EnvVars.ofList_perm_iff
  · -- the last kept row is the last one of its key
    have hlast : LastOfKey e.kept (e.kept.getLast hkept) :=
      ⟨e.kept.dropLast, [], (List.dropLast_concat_getLast hkept).symm, fun w hw => by cases hw⟩
    have hlength : 0 < e.commit.rows.length := by
      have hpos := List.length_pos_of_mem ((hmem _).mpr hlast)
      rwa [← hentries, List.length_map] at hpos
    exact Nat.lt_of_le_of_lt (Nat.min_le_right _ _) (Nat.sub_lt hlength Nat.one_pos)

/-- A row is added under a key that there is already. When it was saved, the row that was there is
gone. -/
theorem row_lost_to_same_key :
    let actions : List Action := [.add, .key (.char 'A'), .toggleColumn, .key (.char '2')]
    let e := actions.foldl Action.apply (ofVars (.ofList [("A", "1")]))
    e.kept = [("A", "1"), ("A", "2")] ∧ e.collect.entries = [("A", "2")] ∧
      ¬ e.collect.entries.Perm e.kept ∧ e.commit.rows.map EnvRow.entry = [("A", "2")] ∧
      e.commit.hasChanges = false := by
  decide +kernel

end EnvEditor

end FunctionConsole
