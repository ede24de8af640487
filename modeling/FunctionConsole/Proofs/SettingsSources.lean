import FunctionConsole.Proofs.UsableSettings
import FunctionConsole.Settings.File

/-!
# Where settings come from

The address and the key are looked for on the command line, in the environment, and in the file.
Each is taken from the first of these that gives it, and nothing of the others is left in it,
although validation puts an assumed address in between: `TakenFromHighest` says what is made of a
value from each source, and `DecidedAlone` that two starts which agree on the source that decides
agree on the value.

The numbers come from the file alone.
-/

namespace FunctionConsole

open Settings (overriding?)

-- ==================================================== overrides

/-- A value counts if it is given and not blank. -/
def Given (value : Option String) : Prop := ∃ s, value = some s ∧ Text.isAllBlank s = false

instance : (value : Option String) → Decidable (Given value)
  | none => .isFalse fun ⟨_, h, _⟩ => nomatch h
  | some s => decidable_of_iff (Text.isAllBlank s = false)
    ⟨fun h => ⟨s, rfl, h⟩, fun ⟨_, h, hvisible⟩ => Option.some.inj h ▸ hvisible⟩

theorem overriding?_of_given {value : Option String} (h : Given value) :
    ∃ s, overriding? value = some s := by
  obtain ⟨s, rfl, hvisible⟩ := h
  exact ⟨Text.trim s, by
    rw [overriding?, Option.bind_some, Text.nonBlank?, Text.isAllBlank_trim, hvisible]
    rfl⟩

theorem overriding?_of_not_given {value : Option String} (h : ¬ Given value) :
    overriding? value = none := by
  cases value with
  | none => rfl
  | some s =>
      have hblank : Text.isAllBlank s = true := by
        by_contra hvisible
        exact h ⟨s, rfl, Bool.eq_false_iff.mpr hvisible⟩
      rw [overriding?, Option.bind_some, Text.nonBlank?, Text.isAllBlank_trim, hblank]
      rfl

variable {s : Settings} {o : Overrides}

/-- A blank address changes nothing. -/
theorem baseUrl_apply (h : ¬ Given o.baseUrl) : (s.apply o).server.baseUrl = s.server.baseUrl := by
  rw [Settings.apply, overriding?_of_not_given h]
  rfl

/-- A blank key changes nothing. -/
theorem apiKey_apply (h : ¬ Given o.apiKey) : (s.apply o).server.apiKey = s.server.apiKey := by
  rw [Settings.apply, overriding?_of_not_given h]
  rfl

theorem ui_apply (s : Settings) (o : Overrides) : (s.apply o).ui = s.ui := rfl

-- ==================================================== one start

/-- The settings that stand in the file. -/
def SettingsSources.written (x : SettingsSources) : Except SettingsFault Settings :=
  if x.required then Settings.ofRequiredFile x.file else .ok (Settings.ofOptionalFile x.file)

/-- What comes of the settings in the file, by the environment and the command line. -/
def layered (file : Settings) (environment line : Overrides) : Settings :=
  ((file.apply environment).validated.apply line).validated

theorem SettingsSources.settings_eq_ok {x : SettingsSources} (h : x.settings = .ok s) :
    ∃ file, x.written = .ok file ∧ s = layered file x.environment x.commandLine := by
  have hload : Settings.load x.required x.file x.environment =
      x.written.map fun file => (file.apply x.environment).validated := by
    rw [Settings.load, written]
    split <;> rfl
  rw [settings, hload] at h
  cases hwritten : x.written with
  | error e =>
      rw [hwritten] at h
      cases h
  | ok file =>
      rw [hwritten] at h
      have hs : layered file x.environment x.commandLine = s := Except.ok.inj h
      exact ⟨file, rfl, hs.symm⟩

theorem ui_layered (file : Settings) (environment line : Overrides) :
    (layered file environment line).ui = file.validated.ui := by
  rw [layered, Settings.ui_validated_congr (ui_apply _ line), Settings.ui_validated_validated,
    Settings.ui_validated_congr (ui_apply file environment)]

-- ==================================================== one source

/-- What is made of a value, by the source that it comes from. -/
structure Reading (α : Type) where
  line : String → α
  environment : String → α
  file : Settings → α

/-- The address is cleaned before the command line is looked at, and again after it. -/
def addressReading : Reading String where
  line := Settings.cleanUrl
  environment v := Settings.cleanUrl (Settings.cleanUrl v)
  file s := Settings.cleanUrl (Settings.cleanUrl s.server.baseUrl)

/-- The key is left as it is. -/
def keyReading : Reading (Option String) where
  line := some
  environment := some
  file s := s.server.apiKey

/-- A value is made of the first source that gives it, and of nothing else. -/
def Layered {α : Type} (given : Overrides → Option String) (shown : Settings → α) (r : Reading α) :
    Prop :=
  ∀ (file : Settings) (environment line : Overrides),
    shown (layered file environment line) =
      match overriding? (given line), overriding? (given environment) with
      | some v, _ => r.line v
      | none, some v => r.environment v
      | none, none => r.file file

theorem layered_baseUrl : Layered Overrides.baseUrl (fun s => s.server.baseUrl) addressReading := by
  intro file e l
  dsimp only
  rw [layered, Settings.baseUrl_validated, Settings.apply, Settings.baseUrl_validated,
    Settings.apply]
  cases overriding? l.baseUrl with
  | some v => rw [Option.getD_some, addressReading]
  | none =>
      cases overriding? e.baseUrl with
      | some v => rw [Option.getD_none, Option.getD_some, addressReading]
      | none => rw [Option.getD_none, Option.getD_none, addressReading]

theorem layered_apiKey : Layered Overrides.apiKey (fun s => s.server.apiKey) keyReading := by
  intro file e l
  dsimp only
  rw [layered, Settings.server_validated, Settings.apply]
  cases overriding? l.apiKey with
  | some v => rfl
  | none =>
      rw [Settings.server_validated, Settings.apply]
      cases overriding? e.apiKey with
      | some v => rfl
      | none => rfl

/-- The value that a start comes to is read from the command line if that gives it, else from the
environment if that gives it, else from the file. -/
structure TakenFromHighest {α : Type} (given : Overrides → Option String) (shown : Settings → α)
    (r : Reading α) : Prop where
  line : ∀ {x : SettingsSources} {s : Settings} {v : String}, x.settings = .ok s →
    overriding? (given x.commandLine) = some v → shown s = r.line v
  environment : ∀ {x : SettingsSources} {s : Settings} {v : String}, x.settings = .ok s →
    ¬ Given (given x.commandLine) → overriding? (given x.environment) = some v →
      shown s = r.environment v
  file : ∀ {x : SettingsSources} {s file : Settings}, x.settings = .ok s →
    ¬ Given (given x.commandLine) → ¬ Given (given x.environment) → x.written = .ok file →
      shown s = r.file file

theorem Layered.takenFromHighest {α : Type} {given : Overrides → Option String}
    {shown : Settings → α} {r : Reading α} (h : Layered given shown r) :
    TakenFromHighest given shown r := by
  constructor
  case line =>
    intro x s v hx hline
    obtain ⟨file, -, rfl⟩ := SettingsSources.settings_eq_ok hx
    rw [h, hline]
  case environment =>
    intro x s v hx hline henvironment
    obtain ⟨file, -, rfl⟩ := SettingsSources.settings_eq_ok hx
    rw [h, overriding?_of_not_given hline, henvironment]
  case file =>
    intro x s file hx hline henvironment hfile
    obtain ⟨file', hfile', rfl⟩ := SettingsSources.settings_eq_ok hx
    rw [hfile] at hfile'
    rw [h, overriding?_of_not_given hline, overriding?_of_not_given henvironment,
      Except.ok.inj hfile']

-- ==================================================== two starts

/-- Two starts agree on a value if they agree on the source that decides: the command line if it
gives the value, else the environment if that gives it, else the file. -/
structure DecidedAlone {α : Type} (given : Overrides → Option String) (shown : Settings → α) :
    Prop where
  line : ∀ {a b : SettingsSources} {s t : Settings}, a.settings = .ok s → b.settings = .ok t →
    Given (given a.commandLine) → given a.commandLine = given b.commandLine → shown s = shown t
  environment : ∀ {a b : SettingsSources} {s t : Settings}, a.settings = .ok s →
    b.settings = .ok t → ¬ Given (given a.commandLine) → ¬ Given (given b.commandLine) →
      Given (given a.environment) → given a.environment = given b.environment → shown s = shown t
  file : ∀ {a b : SettingsSources} {s t : Settings}, a.settings = .ok s → b.settings = .ok t →
    ¬ Given (given a.commandLine) → ¬ Given (given b.commandLine) →
      ¬ Given (given a.environment) → ¬ Given (given b.environment) →
        a.required = b.required → a.file = b.file → shown s = shown t

theorem written_congr {a b : SettingsSources} (hrequired : a.required = b.required)
    (hfile : a.file = b.file) : a.written = b.written := by
  rw [SettingsSources.written, SettingsSources.written, hrequired, hfile]

/-- What is read from one source alone is the same for starts that agree on that source. -/
theorem TakenFromHighest.decidedAlone {α : Type} {given : Overrides → Option String}
    {shown : Settings → α} {r : Reading α} (h : TakenFromHighest given shown r) :
    DecidedAlone given shown := by
  constructor
  case line =>
    intro a b s t ha hb hgiven heq
    obtain ⟨v, hv⟩ := overriding?_of_given hgiven
    rw [h.line ha hv, h.line hb (heq ▸ hv)]
  case environment =>
    intro a b s t ha hb haline hbline hgiven heq
    obtain ⟨v, hv⟩ := overriding?_of_given hgiven
    rw [h.environment ha haline hv, h.environment hb hbline (heq ▸ hv)]
  case file =>
    intro a b s t ha hb haline hbline haenvironment hbenvironment hrequired hfile
    obtain ⟨file, hwritten, -⟩ := SettingsSources.settings_eq_ok ha
    rw [h.file ha haline haenvironment hwritten,
      h.file hb hbline hbenvironment (written_congr hrequired hfile ▸ hwritten)]

/-- The address and the key are each taken from the highest source that gives them, and so decided
by it alone. Blank overrides change nothing, and no override changes the numbers, which come from
the file alone. -/
theorem highest_source_decides :
    TakenFromHighest Overrides.baseUrl (fun s => s.server.baseUrl) addressReading ∧
    TakenFromHighest Overrides.apiKey (fun s => s.server.apiKey) keyReading ∧
    DecidedAlone Overrides.baseUrl (fun s => s.server.baseUrl) ∧
    DecidedAlone Overrides.apiKey (fun s => s.server.apiKey) ∧
    (∀ (s : Settings) (o : Overrides),
      (¬ Given o.baseUrl → (s.apply o).server.baseUrl = s.server.baseUrl) ∧
        (¬ Given o.apiKey → (s.apply o).server.apiKey = s.server.apiKey) ∧
          (s.apply o).ui = s.ui) ∧
    ∀ (a b : SettingsSources) (s t : Settings), a.settings = .ok s → b.settings = .ok t →
      a.required = b.required → a.file = b.file → s.ui = t.ui := by
  have haddress := layered_baseUrl.takenFromHighest
  have hkey := layered_apiKey.takenFromHighest
  refine ⟨haddress, hkey, haddress.decidedAlone, hkey.decidedAlone,
    fun s o => ⟨baseUrl_apply, apiKey_apply, ui_apply s o⟩,
    fun a b s t ha hb hrequired hfile => ?_⟩
  obtain ⟨afile, hawritten, rfl⟩ := SettingsSources.settings_eq_ok ha
  obtain ⟨bfile, hbwritten, rfl⟩ := SettingsSources.settings_eq_ok hb
  rw [written_congr hrequired hfile, hbwritten] at hawritten
  rw [ui_layered, ui_layered, Except.ok.inj hawritten]

/-- A start with a file and an environment, and a start with neither, that are given one address on
the command line: both take it. The key of the first is that of its file, for the one of its
environment is blank. -/
theorem address_of_line_is_taken :
    let file := "[server]\nbase_url = \"http://file\"\napi_key = \"written\"\n"
    let line : Overrides := { baseUrl := some " http://line/ " }
    let a : SettingsSources :=
      { file := some file.toUTF8
        environment := { baseUrl := some "http://environment", apiKey := some " " }
        commandLine := line }
    let b : SettingsSources := { commandLine := line }
    ∃ s t, a.settings = .ok s ∧ b.settings = .ok t ∧ Given line.baseUrl ∧
      s.server.baseUrl = t.server.baseUrl ∧ s.server.baseUrl = "http://line" ∧
      s.server.apiKey = some "written" ∧ t.server.apiKey = none := by
  intro file line a b
  obtain ⟨haddress, hkey, hdecided, -⟩ := highest_source_decides
  have hgiven : Given line.baseUrl := by decide +kernel
  have hline : overriding? line.baseUrl = some "http://line/" := by decide +kernel
  have hfile : (Settings.ofOptionalFile (some file.toUTF8)).server.apiKey = some "written" := by
    decide +kernel
  obtain ⟨s, ha⟩ : ∃ s, a.settings = .ok s := ⟨_, rfl⟩
  obtain ⟨t, hb⟩ : ∃ t, b.settings = .ok t := ⟨_, rfl⟩
  refine ⟨s, t, ha, hb, hgiven, hdecided.line ha hb hgiven rfl, ?_, ?_, ?_⟩
  · exact (haddress.line ha hline).trans (by decide +kernel)
  · exact (hkey.file ha (by decide) (by decide +kernel) rfl).trans hfile
  · exact hkey.file hb (by decide) (by decide) rfl

end FunctionConsole
