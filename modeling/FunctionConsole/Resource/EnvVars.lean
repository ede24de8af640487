import FunctionConsole.Json.Codec

/-!
# Environment variables

The variables of a function are a finite map from keys to texts. A map is kept as its list of
entries with strictly ascending keys, so two maps with the same entries are equal and the display
order is fixed.
-/

namespace FunctionConsole

/-- The environment variables attached to a function. -/
structure EnvVars where
  entries : List (String × String)
  ascending : entries.Pairwise fun a b => a.1 < b.1
  deriving DecidableEq, Repr

namespace EnvVars

/-- No variables. -/
def empty : EnvVars := ⟨[], List.Pairwise.nil⟩

instance : Inhabited EnvVars := ⟨empty⟩

/-- An entry put into a list is the new one or was there before. -/
theorem mem_putField {key value : String} {l : List (String × String)} {e : String × String}
    (h : e ∈ putField key value l) : e = (key, value) ∨ e ∈ l := by
  induction l with
  | nil => simpa [putField] using h
  | cons a rest ih =>
    obtain ⟨k, v⟩ := a
    unfold putField at h
    split at h
    · rcases List.mem_cons.1 h with h | h
      · exact .inl h
      · exact .inr (List.mem_cons_of_mem _ h)
    · split at h
      · rcases List.mem_cons.1 h with h | h
        · exact .inl h
        · exact .inr h
      · rcases List.mem_cons.1 h with h | h
        · exact .inr (h ▸ List.mem_cons_self)
        · rcases ih h with h | h
          · exact .inl h
          · exact .inr (List.mem_cons_of_mem _ h)

/-- Putting an entry into a list with ascending keys keeps the keys ascending. -/
theorem pairwise_putField {key value : String} {l : List (String × String)}
    (h : l.Pairwise fun a b => a.1 < b.1) :
    (putField key value l).Pairwise fun a b => a.1 < b.1 := by
  induction l with
  | nil => simp [putField]
  | cons a rest ih =>
    obtain ⟨k, v⟩ := a
    have hp := List.pairwise_cons.1 h
    unfold putField
    split
    · rename_i heq
      subst heq
      exact List.pairwise_cons.2 ⟨hp.1, hp.2⟩
    · rename_i hne
      split
      · rename_i hlt
        refine List.pairwise_cons.2 ⟨fun b hb => ?_, h⟩
        rcases List.mem_cons.1 hb with hb | hb
        · subst hb
          exact hlt
        · exact String.lt_trans hlt (hp.1 b hb)
      · rename_i hnlt
        refine List.pairwise_cons.2 ⟨fun b hb => ?_, ih hp.2⟩
        rcases mem_putField hb with hb | hb
        · subst hb
          refine Decidable.byContradiction fun hge => hne ?_
          exact String.le_antisymm (String.not_lt.1 hge) (String.not_lt.1 hnlt)
        · exact hp.1 b hb

/-- Sets a variable. -/
def insert (key value : String) (vars : EnvVars) : EnvVars :=
  ⟨putField key value vars.entries, pairwise_putField vars.ascending⟩

/-- The map with the given entries; of several with one key the last counts. -/
def ofList (l : List (String × String)) : EnvVars :=
  l.foldl (fun vars e => vars.insert e.1 e.2) empty

/-- The value of a variable. -/
def get? (vars : EnvVars) (key : String) : Option String :=
  (vars.entries.find? fun e => e.1 = key).map (·.2)

/-- Variables as documents: an object of strings. -/
def format : Json.Format EnvVars :=
  (Json.Format.entries Json.Format.string).convert ofList entries

end EnvVars

end FunctionConsole
