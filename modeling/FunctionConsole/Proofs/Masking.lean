import FunctionConsole.Frame
import FunctionConsole.Proofs.Invariant
import Mathlib.Data.List.Forall2

/-!
# Masked text

The key of the login and the values of variables are secrets that a user types in public. Their
inputs are masked, and what a frame shows of them is how long they are. This file says so of whole
frames: two states of the console that differ in nothing but the characters of these inputs are
drawn alike, cell for cell (`Alike.frame`).

What may differ is laid down by `TextInput.Alike`, and the proof follows a masked input upwards
through everything that is made from it: the line in a field, the row of a table, the card around
them, the screen, the frame. One thing does show besides the length. The button below the key tells
whether there is anything in it but blanks, so of two keys either both are blank or neither is.

That the two inputs are masked at all holds because nothing that happens takes the mask off
(`secrets_are_masked`). Both together are the result, `frame_alike`.
-/

namespace FunctionConsole

open Console (Input start)

-- ==================================================== inputs

/-- Inputs that differ at most in their characters, and in those only if they are masked. -/
structure TextInput.Alike (t u : TextInput) : Prop where
  masked : u.masked = t.masked
  cursor : u.cursor = t.cursor
  length : u.chars.length = t.chars.length
  plain : t.masked = false → u.chars = t.chars

section

variable {t u : TextInput}

theorem TextInput.Alike.display (h : t.Alike u) : u.display = t.display := by
  unfold TextInput.display
  rw [h.masked]
  split
  · rw [List.map_const', List.map_const', h.length]
  · next hplain =>
      rw [TextInput.value, TextInput.value, h.plain (Bool.eq_false_iff.mpr hplain)]

theorem TextInput.Alike.isEmpty (h : t.Alike u) : u.isEmpty = t.isEmpty := by
  have hlength := h.length
  unfold TextInput.isEmpty
  cases hu : u.chars <;> cases ht : t.chars <;> simp_all

/-- A field shows of its input what is displayed, whether it is empty, and the cursor. -/
theorem InputField.draw_alike {f : InputField} (h : f.input.Alike u) (area : Rect) (b : Buffer) :
    { f with input := u }.draw area b = f.draw area b := by
  have hcontent : { f with input := u }.content = f.content := by
    unfold InputField.content
    dsimp only
    rw [h.display, h.isEmpty, h.cursor]
  unfold InputField.draw
  rw [hcontent]

end

-- ==================================================== the login screen

/-- The login screen shows of the key, beside the field, whether it is blank. -/
theorem LoginScreen.draw_alike {s : LoginScreen} {apiKey : TextInput} (h : s.apiKey.Alike apiKey)
    (hblank : Text.isAllBlank apiKey.value = Text.isAllBlank s.apiKey.value) (area : Rect)
    (b : Buffer) : { s with apiKey }.draw area b = s.draw area b := by
  have hfield (area : Rect) (b : Buffer) :
      { s with apiKey }.field.draw area b = s.field.draw area b :=
    InputField.draw_alike (f := s.field) h area b
  have hbutton : { s with apiKey }.button = s.button := by
    simp [LoginScreen.button, LoginScreen.canSubmit, hblank]
  unfold LoginScreen.draw
  dsimp only
  rw [hbutton, hfield]
  rfl

-- ==================================================== variables

/-- Variables with one key and one state, whose values look alike. -/
structure EnvRow.Alike (r r' : EnvRow) : Prop where
  key : r'.key = r.key
  state : r'.state = r.state
  value : r.value.Alike r'.value

namespace SettingsScreen

theorem envRow_alike {r r' : EnvRow} (h : r.Alike r') (e : EnvEditor) (i : Nat) :
    envRow e r' i = envRow e r i := by
  unfold envRow envCell
  rw [h.key, h.state, h.value.display]

/-- Rows that are drawn alike one by one make up the same table. -/
theorem tableRows_alike {e : EnvEditor} {rows rows' : List EnvRow}
    (h : List.Forall₂ EnvRow.Alike rows rows') (n : Nat) :
    ((rows'.zipIdx n).map fun (row, i) => envRow e row i) =
      (rows.zipIdx n).map fun (row, i) => envRow e row i := by
  induction h generalizing n with
  | nil => rfl
  | cons hrow _ ih =>
      rw [List.zipIdx_cons, List.zipIdx_cons, List.map_cons, List.map_cons, ih (n + 1)]
      exact congrArg (· :: _) (envRow_alike hrow e n)

variable {s : SettingsScreen} {rows : List EnvRow} (h : List.Forall₂ EnvRow.Alike s.env.rows rows)
include h

theorem drawVars_alike (area : Rect) (b : Buffer) :
    drawVars { s.env with rows } area b = drawVars s.env area b := by
  have hempty : EnvEditor.isEmpty { s.env with rows } = s.env.isEmpty := by
    have hlength := h.length_eq
    unfold EnvEditor.isEmpty
    cases hrows : s.env.rows <;> cases rows <;> simp_all
  have htable : envTable { s.env with rows } = envTable s.env := by
    unfold envTable
    exact congrArg (fun rows => ({ header := _, widths := _, rows, selected := _ } : Table))
      (tableRows_alike h 0)
  unfold drawVars
  rw [hempty, htable]

/-- Only one section of the settings shows variables at all. -/
theorem draw_alike (area : Rect) (b : Buffer) :
    { s with env := { s.env with rows } }.draw area b = s.draw area b := by
  have henv : { s with env := { s.env with rows } }.drawEnv = s.drawEnv := by
    funext area b
    unfold drawEnv
    simp only [drawVars_alike h]
  have hsection : { s with env := { s.env with rows } }.drawSection = s.drawSection := by
    unfold drawSection
    rw [henv]
    rfl
  have hcontent : { s with env := { s.env with rows } }.drawContent = s.drawContent := by
    funext area b
    unfold drawContent
    rw [hsection]
  unfold draw
  rw [hcontent]

end SettingsScreen

-- ==================================================== the console

/-- Screens that differ at most in the characters of their masked inputs. -/
inductive Screen.Alike : Screen → Screen → Prop where
  | same (screen : Screen) : Screen.Alike screen screen
  | login {s : LoginScreen} {apiKey : TextInput} (h : s.apiKey.Alike apiKey)
      (hblank : Text.isAllBlank apiKey.value = Text.isAllBlank s.apiKey.value) :
      Screen.Alike (.login s) (.login { s with apiKey })
  | settings {s : SettingsScreen} {rows : List EnvRow}
      (h : List.Forall₂ EnvRow.Alike s.env.rows rows) :
      Screen.Alike (.settings s) (.settings { s with env := { s.env with rows } })

section

variable {screen screen' : Screen} (h : screen.Alike screen')
include h

theorem Screen.Alike.draw (zone : TimeZone) (area : Rect) (b : Buffer) :
    screen'.draw zone area b = screen.draw zone area b := by
  cases h with
  | same => rfl
  | login h hblank => exact LoginScreen.draw_alike h hblank area b
  | settings h => exact SettingsScreen.draw_alike h area b

theorem Screen.Alike.hints : screen'.hints = screen.hints := by cases h <;> rfl

theorem Screen.Alike.function? : screen'.function? = screen.function? := by cases h <;> rfl

end

namespace Console

/-- States that differ at most in the characters of masked inputs. -/
structure Alike (c c' : Console) : Prop where
  screen : c.screen.Alike c'.screen
  rest : c' = { c with screen := c'.screen }

/-- Such states are drawn alike. -/
theorem Alike.frame {c c' : Console} (h : c.Alike c') (zone : TimeZone) (width height : Nat) :
    c'.frame zone width height = c.frame zone width height := by
  have htrail : { c with screen := c'.screen }.trail = c.trail := by
    unfold trail currentFunction
    rw [h.screen.function?]
  have hhints : { c with screen := c'.screen }.hints = c.hints := by
    unfold hints
    rw [h.screen.hints]
  rw [h.rest]
  unfold Console.frame
  dsimp only
  rw [htrail, hhints, h.screen.draw]
  rfl

end Console

-- ==================================================== the masks stay on

theorem TextInput.handleKey_masked (t : TextInput) (key : Key) :
    (t.handleKey key).1.masked = t.masked := by
  cases key with
  | backspace =>
      show t.backspace.1.masked = t.masked
      unfold TextInput.backspace
      split <;> rfl
  | delete =>
      show t.delete.1.masked = t.masked
      unfold TextInput.delete
      split <;> rfl
  | ctrl c =>
      by_cases hc : c = 'u'
      · subst hc
        rfl
      · rw [handleKey_ctrl hc]
  | _ => rfl

namespace EnvEditor

/-- The values of all variables are masked. -/
def Masked (e : EnvEditor) : Prop := ∀ r ∈ e.rows, r.value.masked = true

theorem ofVars_masked (vars : EnvVars) : (ofVars vars).Masked := by
  intro r hr
  obtain ⟨entry, -, rfl⟩ := List.mem_map.mp hr
  rfl

section

variable {e : EnvEditor} (h : e.Masked)
include h

theorem add_masked : e.add.Masked := by
  intro r hr
  rcases List.mem_append.mp hr with hr | hr
  · exact h r hr
  · obtain rfl := List.mem_singleton.mp hr
    rfl

/-- A row that is masked may be put in place of another. -/
theorem set_masked {r : EnvRow} (hr : r.value.masked = true) (i selected : Nat)
    (column : EnvColumn) : Masked ⟨e.rows.set i r, selected, column⟩ := by
  intro r' hr'
  rcases List.mem_or_eq_of_mem_set hr' with hr' | rfl
  · exact h r' hr'
  · exact hr

theorem toggleRemove_masked (i : Nat) : (e.toggleRemove i).Masked := by
  unfold toggleRemove
  split
  · exact h
  · next row hrow =>
      have hmasked : row.value.masked = true := h row (List.mem_of_getElem? hrow)
      split
      case h_1 => exact fun r hr => h r (List.mem_of_mem_eraseIdx hr)
      all_goals
        refine set_masked h ?_ i _ _
        exact hmasked

theorem editSelected_masked (key : Key) : (e.editSelected key).1.Masked := by
  unfold editSelected
  split
  · exact h
  · next row hrow =>
      have hmasked : row.value.masked = true := h row (List.mem_of_getElem? hrow)
      split
      · exact h
      · refine set_masked h ?_ _ _ _
        cases e.column with
        | key => exact hmasked
        | value => exact (TextInput.handleKey_masked row.value key).trans hmasked

end

end EnvEditor

theorem LoginScreen.submit_apiKey (s : LoginScreen) : s.submit.1.apiKey = s.apiKey := by
  unfold LoginScreen.submit
  split <;> rfl

theorem LoginScreen.handleKey_masked {s : LoginScreen} (h : s.apiKey.masked = true) (key : Key) :
    ∀ p ∈ s.handleKey key, p.1.apiKey.masked = true := by
  intro p hp
  unfold LoginScreen.handleKey at hp
  split at hp
  case h_3 =>
      dsimp only at hp
      split at hp
      · cases hp
        exact (TextInput.handleKey_masked s.apiKey key).trans h
      · cases hp
  all_goals
    cases hp
    rw [LoginScreen.submit_apiKey]
    exact h

namespace SettingsScreen

variable {s : SettingsScreen} (h : s.env.Masked)
include h

/-- The general fields are none of the variables' business. -/
theorem generalKey_masked (key : Key) : ∀ p ∈ s.generalKey key, p.1.env.Masked := by
  have hsave : s.saveGeneral.1.env.Masked := by
    unfold saveGeneral
    dsimp only
    split
    · exact h
    · split
      · exact h
      · split <;> exact h
  have hedit (effect : KeyEffect) :
      (if effect.changed then { s with generalError := none } else s).env.Masked := by
    split <;> exact h
  unfold generalKey
  split
  case h_3 => simpa using hsave
  case h_4 =>
      -- the field that the key is offered to takes it, or leaves it
      dsimp only
      split <;> split
      case h_1.isTrue | h_2.isTrue => simpa using hedit _
      all_goals simp
  all_goals simpa using h

theorem envKey_masked (key : Key) : ∀ p ∈ s.envKey key, p.1.env.Masked := by
  have htaken {s' : SettingsScreen} {e : Effects} (h' : s'.env.Masked) :
      ∀ p ∈ some (s', e), p.1.env.Masked := by
    intro p hp
    cases hp
    exact h'
  have hsave : s.saveEnv.1.env.Masked := by
    unfold saveEnv
    split
    · exact h
    · split <;> exact h
  have hnext : s.env.selectNext.Masked := by
    unfold EnvEditor.selectNext
    split <;> exact h
  unfold envKey
  split
  case h_2 => exact htaken hnext
  case h_4 => exact htaken (EnvEditor.add_masked h)
  case h_5 => exact htaken (EnvEditor.toggleRemove_masked h _)
  case h_6 => exact htaken hsave
  case h_7 =>
      dsimp only
      split
      · exact htaken (EnvEditor.editSelected_masked h _)
      · simp
  all_goals exact htaken h

theorem handleKey_masked (key : Key) : ∀ p ∈ s.handleKey key, p.1.env.Masked := by
  have hsection : ∀ p ∈ s.sectionKey key, p.1.env.Masked := by
    unfold sectionKey
    split
    · exact generalKey_masked h key
    · exact envKey_masked h key
    · simp
    · split <;> simp [h]
    · split <;> simp [h]
  unfold handleKey
  split
  case h_3 =>
      split
      · exact hsection
      · simp
  all_goals simpa using h

/-- What comes from the server is masked as it comes. -/
theorem handleResponse_masked (r : Response) : (s.handleResponse r).1.env.Masked := by
  have hgeneral (s' : SettingsScreen) (hs' : s'.env.Masked) (e : ApiError) :
      (s'.generalFailed e).1.env.Masked := by
    unfold generalFailed
    dsimp only
    split
    · split <;> exact hs'
    · exact hs'
  unfold handleResponse
  split
  case h_1 =>
      unfold seed
      dsimp only
      split
      · exact h
      · exact EnvEditor.ofVars_masked _
  case h_3 =>
      unfold functionUpdated
      dsimp only
      split
      case h_4 => exact hgeneral { s with saving := false } h _
      all_goals exact h
  case h_4 => exact EnvEditor.ofVars_masked _
  all_goals exact h

end SettingsScreen

namespace Screen

/-- What is meant to be secret on a screen is masked. -/
def Masked : Screen → Prop
  | .login s => s.apiKey.masked = true
  | .settings s => s.env.Masked
  | _ => True

theorem masked_invariant : Screen.Invariant Screen.Masked where
  fresh ctx route := by
    cases route with
    | login => rfl
    | settings id => exact fun r hr => by cases hr
    | _ => trivial
  login _ := rfl
  submitted apiKey redirect := by
    show (LoginScreen.submitted apiKey redirect).1.apiKey.masked = true
    unfold LoginScreen.submitted
    rw [LoginScreen.submit_apiKey]
    rfl
  key screen key h p hp := by
    cases screen <;> obtain ⟨q, hq, rfl⟩ := Option.map_eq_some_iff.mp hp
    case login s => exact LoginScreen.handleKey_masked h key q hq
    case settings s => exact SettingsScreen.handleKey_masked h key q hq
    all_goals trivial
  response screen r h := by
    cases screen with
    | login s =>
        show (s.handleResponse r).1.apiKey.masked = true
        unfold LoginScreen.handleResponse
        split <;> exact h
    | settings s => exact SettingsScreen.handleResponse_masked h r
    | _ => trivial

/-- Whatever has happened to the console, what is meant to be secret is masked. -/
theorem secrets_are_masked (settings : Settings) (inputs : List Input) :
    ((start settings).after inputs).screen.Masked :=
  masked_invariant.after settings inputs

end Screen

-- ==================================================== frames

namespace Console

/-- Masked text never reaches the screen. Whatever has happened to the console, the key and the
values of variables are masked; and at every size the frames of two states that differ in nothing
but the characters of masked inputs are the same. -/
theorem frame_alike (zone : TimeZone) (width height : Nat) :
    (∀ settings inputs, ((start settings).after inputs).screen.Masked) ∧
    ∀ c c' : Console, c.Alike c' → c'.frame zone width height = c.frame zone width height :=
  ⟨Screen.secrets_are_masked, fun _ _ h => h.frame zone width height⟩

/-- One key or another is typed, and one value of a variable or another: the states differ, and
nobody sees it. -/
theorem frames_of_other_secrets :
    let key (text : String) : List Input := text.toList.map fun ch => ⟨9, .key (.char ch)⟩
    let login (text : String) : Console :=
      (start {}).after (⟨0, .startup .functions none⟩ :: key text)
    let settings (text : String) : Console :=
      (start {}).after ([⟨0, .startup (.settings "f") (some "key")⟩,
        ⟨1, .api ⟨.view, 1⟩ (.loggedIn (.ok ()))⟩,
        ⟨2, .api ⟨.view, 2⟩ (.function (.ok default))⟩, ⟨3, .key .tab⟩, ⟨4, .key (.ctrl 'n')⟩,
        ⟨5, .key .enter⟩] ++ key text)
    login "open" ≠ login "shut" ∧
      (login "shut").frame .utc 80 24 = (login "open").frame .utc 80 24 ∧
      settings "on" ≠ settings "no" ∧
      (settings "no").frame .utc 80 24 = (settings "on").frame .utc 80 24 := by
  intro key login settings
  have hlogin : Console.Alike (login "open") (login "shut") := by
    let shown (text : String) : LoginScreen :=
      { apiKey := ⟨text.toList, 4, true⟩, redirect := .functions }
    have hopen : (login "open").screen = .login (shown "open") := by decide +kernel
    have hshut : (login "shut").screen = .login (shown "shut") := by decide +kernel
    refine ⟨?_, by decide +kernel⟩
    rw [hopen, hshut]
    exact .login ⟨rfl, rfl, rfl, fun hplain => by cases hplain⟩ (by decide)
  have hsettings : Console.Alike (settings "on") (settings "no") := by
    let row (text : String) : EnvRow := ⟨{}, ⟨text.toList, 2, true⟩, .added⟩
    let shown (text : String) : SettingsScreen :=
      { id := "f", function := .loaded default, sect := .environment
        env := ⟨[row text], 0, .value⟩, baseUrl := "http://localhost:3000" }
    have hon : (settings "on").screen = .settings (shown "on") := by decide +kernel
    have hno : (settings "no").screen = .settings (shown "no") := by decide +kernel
    refine ⟨?_, by decide +kernel⟩
    rw [hon, hno]
    exact .settings (.cons ⟨rfl, rfl, rfl, rfl, rfl, fun hplain => by cases hplain⟩ .nil)
  obtain ⟨-, hframes⟩ := frame_alike .utc 80 24
  exact ⟨by decide +kernel, hframes _ _ hlogin, by decide +kernel, hframes _ _ hsettings⟩

end Console

end FunctionConsole
