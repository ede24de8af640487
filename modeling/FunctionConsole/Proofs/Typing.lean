import FunctionConsole.Proofs.Cursor
import FunctionConsole.Proofs.Run

/-!
# Typing

Most letters and digits mean something to the console or to a screen: `q` quits, `r` reloads and
drops what was not saved, `1` opens a tab, `j` moves a selection. A user who writes into a text must
never meet these meanings. `Console.focus?` says which text buffer has the focus, if any has, and
`typing_reaches_focused_buffer` that a character then goes into that buffer, at its cursor, and does
nothing else.

The statement is put together from two layers. `Screen.handleKey_typed` goes through the screens:
each offers a character to the buffer in focus before it looks for another meaning. What is left for
the console is that a screen is offered the character before the bindings of the console are.
-/

namespace FunctionConsole

open Console (Input start)

-- ==================================================== texts with a cursor

section

variable {l : List Char} {n : Nat}

/-- A character inserted at a place comes to be the last of what stands up to behind it. -/
theorem take_insert (h : n ≤ l.length) (c : Char) :
    (l.take n ++ c :: l.drop n).take (n + 1) = l.take n ++ [c] := by
  rw [List.append_cons]
  exact List.take_left' (by simp [h])

theorem drop_insert (h : n ≤ l.length) (c : Char) :
    (l.take n ++ c :: l.drop n).drop (n + 1) = l.drop n := by
  rw [List.append_cons]
  exact List.drop_left' (by simp [h])

end

theorem TextInput.handleKey_char (t : TextInput) (c : Char) :
    t.handleKey (.char c) = (t.insertChar c, .edited) := rfl

theorem TextArea.handleKey_char (a : TextArea) (c : Char) :
    a.handleKey (.char c) = (a.insertChar c, .edited) := rfl

namespace TextArea

/-- What stands before the cursor. -/
def beforeCursor (a : TextArea) : List Char :=
  joinLines (a.lines.take a.row ++ [(a.line a.row).take a.col])

/-- What stands after the cursor. -/
def afterCursor (a : TextArea) : List Char :=
  joinLines ((a.line a.row).drop a.col :: a.lines.drop (a.row + 1))

theorem joinLines_cons (l : List Char) {rest : List (List Char)} (h : rest ≠ []) :
    joinLines (l :: rest) = l ++ '\n' :: joinLines rest := by
  cases rest with
  | nil => exact absurd rfl h
  | cons m rest => rfl

/-- A text cut inside of a line is what stands before the cut and what stands after it. -/
theorem joinLines_cut (before after : List (List Char)) (l m : List Char) :
    joinLines (before ++ (l ++ m) :: after) =
      joinLines (before ++ [l]) ++ joinLines (m :: after) := by
  induction before with
  | nil =>
      cases after with
      | nil => rfl
      | cons n after => simp [joinLines]
  | cons b before ih =>
      simp only [List.cons_append]
      rw [joinLines_cons b (by simp), joinLines_cons b (by simp), ih]
      simp

section

variable {a : TextArea}

/-- The lines around the one with the cursor. -/
theorem lines_eq (h : a.Sound) :
    a.lines = a.lines.take a.row ++ a.line a.row :: a.lines.drop (a.row + 1) := by
  have hline : a.line a.row = a.lines.get ⟨a.row, h.row⟩ := by
    simp [line, List.getElem?_eq_getElem h.row]
  rw [hline, List.get_eq_getElem, List.getElem_cons_drop, List.take_append_drop]

theorem joinLines_eq (h : a.Sound) : joinLines a.lines = a.beforeCursor ++ a.afterCursor := by
  have hline := List.take_append_drop a.col (a.line a.row)
  rw [lines_eq h, ← hline, joinLines_cut]
  rfl

/-- A character goes to the end of what stands before the cursor. -/
theorem beforeCursor_insertChar (h : a.Sound) (c : Char) :
    (a.insertChar c).beforeCursor = a.beforeCursor ++ [c] := by
  have hlines : (a.lines.modify a.row fun l => l.take a.col ++ c :: l.drop a.col).take a.row =
      a.lines.take a.row := by
    rw [List.modify_eq_take_cons_drop h.row]
    exact List.take_left' (List.length_take_of_le (Nat.le_of_lt h.row))
  unfold beforeCursor insertChar
  dsimp only
  rw [line_modify h.row, take_insert h.col, hlines, joinLines_cut]
  rfl

/-- What stands after the cursor is left as it is. -/
theorem afterCursor_insertChar (h : a.Sound) (c : Char) :
    (a.insertChar c).afterCursor = a.afterCursor := by
  have hlines : (a.lines.modify a.row fun l => l.take a.col ++ c :: l.drop a.col).drop (a.row + 1) =
      a.lines.drop (a.row + 1) := by
    rw [List.drop_modify_of_lt]
    omega
  unfold afterCursor insertChar
  dsimp only
  rw [line_modify h.row, drop_insert h.col, hlines]

end

end TextArea

/-- A text that is typed into: one line, or many. -/
inductive TextBuffer where
  | line (t : TextInput)
  | page (a : TextArea)
  deriving DecidableEq, Repr

namespace TextBuffer

/-- The text of a buffer. -/
def text : TextBuffer → List Char
  | .line t => t.chars
  | .page a => TextArea.joinLines a.lines

/-- What stands before the cursor. -/
def beforeCursor : TextBuffer → List Char
  | .line t => t.chars.take t.cursor
  | .page a => a.beforeCursor

/-- What stands after the cursor. -/
def afterCursor : TextBuffer → List Char
  | .line t => t.chars.drop t.cursor
  | .page a => a.afterCursor

/-- The buffer with a character inserted. -/
def insert (c : Char) : TextBuffer → TextBuffer
  | .line t => .line (t.insertChar c)
  | .page a => .page (a.insertChar c)

/-- The cursor of a buffer of many lines stands in its text. -/
def Sound : TextBuffer → Prop
  | .line _ => True
  | .page a => a.Sound

theorem text_insert {b : TextBuffer} (h : b.Sound) (c : Char) :
    (b.insert c).text = b.beforeCursor ++ c :: b.afterCursor := by
  cases b with
  | line t => rfl
  | page a =>
      have hsplit := TextArea.joinLines_eq (TextArea.insertChar_sound h c)
      rw [TextArea.beforeCursor_insertChar h, TextArea.afterCursor_insertChar h] at hsplit
      simpa [insert, text, beforeCursor, afterCursor] using hsplit

theorem beforeCursor_insert {b : TextBuffer} (h : b.Sound) (c : Char) :
    (b.insert c).beforeCursor = b.beforeCursor ++ [c] := by
  cases b with
  | line t =>
      rcases Nat.le_total t.cursor t.chars.length with hle | hle
      · exact take_insert hle c
      · -- a cursor past the end types at the end
        simp only [insert, beforeCursor, TextInput.insertChar]
        rw [List.take_of_length_le hle, List.drop_eq_nil_of_le hle]
        exact List.take_of_length_le (by simpa using hle)
  | page a => exact TextArea.beforeCursor_insertChar h c

end TextBuffer

-- ==================================================== the buffers of the console

/-- Where text is typed. -/
inductive TextPlace where
  | paletteQuery
  | apiKey
  | newName
  | newDescription
  | name
  | description
  | envCell (row : Nat) (column : EnvColumn)
  | callQuery
  | callHeaders
  | callBody
  | code
  deriving DecidableEq, Repr

/-- A cell of a variable. -/
def EnvRow.cell (r : EnvRow) : EnvColumn → TextInput
  | .key => r.key
  | .value => r.value

namespace Screen

/-- The buffer at a place of a screen, if the screen has that place. -/
def buffer? : Screen → TextPlace → Option TextBuffer
  | .login s, .apiKey => some (.line s.apiKey)
  | .create s, .newName => some (.line s.name)
  | .create s, .newDescription => some (.line s.description)
  | .settings s, .name => some (.line s.name)
  | .settings s, .description => some (.line s.description)
  | .settings s, .envCell row column => (s.env.rows[row]?).map fun r => .line (r.cell column)
  | .test s, .callQuery => some (.line s.query)
  | .test s, .callHeaders => some (.page s.headers)
  | .test s, .callBody => some (.page s.body)
  | .code s, .code => some (.page s.editor)
  | _, _ => none

/-- The place of a screen that has the focus. The settings offer none until they have the function
that they are about, and none in a variable that is to be removed. -/
def focus? : Screen → Option TextPlace
  | .login _ => some .apiKey
  | .create s =>
    match s.focus with
    | .name => some .newName
    | .description => some .newDescription
    | _ => none
  | .settings s =>
    match s.function.get?, s.sect with
    | some _, .general =>
      match s.field with
      | .name => some .name
      | .description => some .description
    | some _, .environment =>
      (s.env.rows[s.env.selected]?).bind fun r =>
        if r.state = .removed then none else some (.envCell s.env.selected s.env.column)
    | _, _ => none
  | .test s =>
    match s.focus with
    | .query => some .callQuery
    | .headers => some .callHeaders
    | .body => some .callBody
    | _ => none
  | .code s => if s.editing then some .code else none
  | _ => none

theorem sound_of_buffer? {screen : Screen} (h : screen.Sound) {place : TextPlace} {b : TextBuffer}
    (hb : screen.buffer? place = some b) : b.Sound := by
  unfold buffer? at hb
  split at hb
  case h_6 =>
      obtain ⟨r, -, rfl⟩ := Option.map_eq_some_iff.mp hb
      trivial
  case h_8 | h_9 | h_10 =>
      cases hb
      first | exact h.1 | exact h.2 | exact h
  all_goals cases hb <;> trivial

-- ==================================================== typing on a screen

/-- A screen after a character was typed at a place: it stands in the buffer there, and the other
buffers are as they were. -/
structure Typed (screen : Screen) (place : TextPlace) (c : Char) (screen' : Screen) : Prop where
  typed : ∃ b, screen.buffer? place = some b ∧ screen'.buffer? place = some (b.insert c)
  others : ∀ other, other ≠ place → screen'.buffer? other = screen.buffer? other

/-- A screen that has one buffer of its own at each place. -/
theorem typed_of_places {screen screen' : Screen} {place : TextPlace} {c : Char} {b : TextBuffer}
    (hbefore : screen.buffer? place = some b) (hafter : screen'.buffer? place = some (b.insert c))
    (hothers : ∀ other, other = place ∨ screen'.buffer? other = screen.buffer? other) :
    screen.Typed place c screen' :=
  ⟨⟨b, hbefore, hafter⟩, fun other hother => (hothers other).resolve_left hother⟩

section

variable {place : TextPlace}

theorem handleKey_typed_login (s : LoginScreen) (c : Char) :
    ∃ screen', (login s).handleKey (.char c) = some (screen', .none) ∧
      (login s).Typed .apiKey c screen' := by
  refine ⟨.login { s with apiKey := s.apiKey.insertChar c, error := none }, rfl, ?_⟩
  exact typed_of_places rfl rfl fun other => by cases other <;> simp [buffer?]

theorem handleKey_typed_create {s : CreateScreen} (h : (create s).focus? = some place) (c : Char) :
    ∃ screen', (create s).handleKey (.char c) = some (screen', .none) ∧
      (create s).Typed place c screen' := by
  have hkey : (create s).handleKey (.char c) =
      (s.focusedKey (.char c)).map fun p => (.create p.1, p.2) := rfl
  unfold focus? at h
  dsimp only at h
  rw [hkey]
  split at h
  · next hfocus =>
      cases h
      refine ⟨.create { s.dropError "name" with name := s.name.insertChar c }, ?_, ?_⟩
      · simp [CreateScreen.focusedKey, hfocus, TextInput.handleKey_char, KeyEffect.changed,
          KeyEffect.consumed]
      · exact typed_of_places rfl rfl fun other => by
          cases other <;> simp [buffer?, CreateScreen.dropError]
  · next hfocus =>
      cases h
      refine ⟨.create { s.dropError "description" with description := s.description.insertChar c },
        ?_, ?_⟩
      · simp [CreateScreen.focusedKey, hfocus, TextInput.handleKey_char, KeyEffect.changed,
          KeyEffect.consumed]
      · exact typed_of_places rfl rfl fun other => by
          cases other <;> simp [buffer?, CreateScreen.dropError]
  · cases h

theorem handleKey_typed_test {s : TestScreen} (h : (test s).focus? = some place) (c : Char) :
    ∃ screen', (test s).handleKey (.char c) = some (screen', .none) ∧
      (test s).Typed place c screen' := by
  have hkey : (test s).handleKey (.char c) =
      (s.focusedKey (.char c)).map fun p => (.test p.1, p.2) := rfl
  unfold focus? at h
  dsimp only at h
  rw [hkey]
  split at h
  · next hfocus =>
      cases h
      refine ⟨.test { s with query := s.query.insertChar c }, ?_, ?_⟩
      · simp [TestScreen.focusedKey, hfocus, TextInput.handleKey_char, KeyEffect.consumed]
      · exact typed_of_places rfl rfl fun other => by cases other <;> simp [buffer?]
  · next hfocus =>
      cases h
      refine ⟨.test { s with headers := s.headers.insertChar c, headersError := none }, ?_, ?_⟩
      · simp [TestScreen.focusedKey, hfocus, TextArea.handleKey_char, KeyEffect.changed,
          KeyEffect.consumed]
      · exact typed_of_places rfl rfl fun other => by cases other <;> simp [buffer?]
  · next hfocus =>
      cases h
      refine ⟨.test { s with body := s.body.insertChar c }, ?_, ?_⟩
      · simp [TestScreen.focusedKey, hfocus, TextArea.handleKey_char, KeyEffect.consumed]
      · exact typed_of_places rfl rfl fun other => by cases other <;> simp [buffer?]
  · cases h

theorem handleKey_typed_code {s : CodeScreen} (h : (code s).focus? = some place) (c : Char) :
    ∃ screen', (code s).handleKey (.char c) = some (screen', .none) ∧
      (code s).Typed place c screen' := by
  unfold focus? at h
  dsimp only at h
  split at h
  · next hediting =>
      cases h
      refine ⟨.code { s with editor := s.editor.insertChar c }, ?_, ?_⟩
      · simp [handleKey, CodeScreen.handleKey, hediting, CodeScreen.editingKey,
          TextArea.handleKey_char, KeyEffect.consumed]
      · exact typed_of_places rfl rfl fun other => by cases other <;> simp [buffer?]
  · cases h

/-- Editing the selected variable changes one of its cells, and no other variable. -/
theorem editSelected_typed {e : EnvEditor} {r : EnvRow} (hrow : e.rows[e.selected]? = some r)
    (hkept : r.state ≠ .removed) (c : Char) :
    ∃ r', e.editSelected (.char c) = ({ e with rows := e.rows.set e.selected r' }, .edited) ∧
      r'.cell e.column = (r.cell e.column).insertChar c ∧
      ∀ column, column ≠ e.column → r'.cell column = r.cell column := by
  let state := if r.state = .unchanged then RowState.modified else r.state
  cases hcolumn : e.column with
  | key =>
      refine ⟨{ r with key := r.key.insertChar c, state }, ?_, rfl, ?_⟩
      · simp [EnvEditor.editSelected, hrow, hkept, hcolumn, TextInput.handleKey_char,
          KeyEffect.changed, state]
      · intro column hother
        cases column with
        | key => exact absurd rfl hother
        | value => rfl
  | value =>
      refine ⟨{ r with value := r.value.insertChar c, state }, ?_, rfl, ?_⟩
      · simp [EnvEditor.editSelected, hrow, hkept, hcolumn, TextInput.handleKey_char,
          KeyEffect.changed, state]
      · intro column hother
        cases column with
        | key => rfl
        | value => exact absurd rfl hother

/-- Once the function is there, a character is offered to the section in focus. -/
theorem handleKey_settings_char {s : SettingsScreen} {f : Function} (h : s.function.get? = some f)
    (c : Char) : (settings s).handleKey (.char c) =
      (s.sectionKey (.char c)).map fun p => (.settings p.1, p.2) := by
  simp [handleKey, SettingsScreen.handleKey, h]

theorem handleKey_typed_settings {s : SettingsScreen} (h : (settings s).focus? = some place)
    (c : Char) :
    ∃ screen', (settings s).handleKey (.char c) = some (screen', .none) ∧
      (settings s).Typed place c screen' := by
  unfold focus? at h
  dsimp only at h
  split at h
  · next hfunction hsect =>
      have hsection : s.sectionKey (.char c) = s.generalKey (.char c) := by
        unfold SettingsScreen.sectionKey
        rw [hsect]
      rw [handleKey_settings_char hfunction, hsection]
      split at h
      · next hfield =>
          cases h
          refine ⟨.settings { s with name := s.name.insertChar c, generalError := none }, ?_, ?_⟩
          · simp [SettingsScreen.generalKey, hfield, TextInput.handleKey_char, KeyEffect.changed,
              KeyEffect.consumed]
          · exact typed_of_places rfl rfl fun other => by cases other <;> simp [buffer?]
      · next hfield =>
          cases h
          refine ⟨.settings { s with
            description := s.description.insertChar c, generalError := none }, ?_, ?_⟩
          · simp [SettingsScreen.generalKey, hfield, TextInput.handleKey_char, KeyEffect.changed,
              KeyEffect.consumed]
          · exact typed_of_places rfl rfl fun other => by cases other <;> simp [buffer?]
  · next hfunction hsect =>
      have hsection : s.sectionKey (.char c) = s.envKey (.char c) := by
        unfold SettingsScreen.sectionKey
        rw [hsect]
      rw [handleKey_settings_char hfunction, hsection]
      obtain ⟨r, hrow, hr⟩ := Option.bind_eq_some_iff.mp h
      split at hr
      · cases hr
      · next hkept =>
          cases hr
          obtain ⟨r', hedit, hcell, hothers⟩ := editSelected_typed hrow hkept c
          obtain ⟨hlt, hget⟩ := List.getElem?_eq_some_iff.mp hrow
          refine ⟨.settings { s with env := { s.env with
            rows := s.env.rows.set s.env.selected r' } }, ?_, ⟨.line (r.cell s.env.column), ?_, ?_⟩,
            ?_⟩
          · simp [SettingsScreen.envKey, hedit, KeyEffect.consumed]
          · simp [buffer?, hrow]
          · simp [buffer?, hlt, hcell, TextBuffer.insert]
          · intro other hother
            cases other with
            | envCell row column =>
                by_cases hsame : row = s.env.selected
                · subst hsame
                  have hcolumn : column ≠ s.env.column := fun heq => hother (by rw [heq])
                  simp [buffer?, hlt, hget, hothers column hcolumn]
                · simp [buffer?, List.getElem?_set_ne (Ne.symm hsame)]
            | _ => rfl
  · cases h

/-- A character goes to the buffer in focus, before a screen has any other use for it. -/
theorem handleKey_typed {screen : Screen} (h : screen.focus? = some place) (c : Char) :
    ∃ screen', screen.handleKey (.char c) = some (screen', .none) ∧
      screen.Typed place c screen' := by
  cases screen with
  | login s =>
      cases h
      exact handleKey_typed_login s c
  | create s => exact handleKey_typed_create h c
  | settings s => exact handleKey_typed_settings h c
  | test s => exact handleKey_typed_test h c
  | code s => exact handleKey_typed_code h c
  | functions _ | versions _ | executions _ | diff _ | execution _ | gallery _ => cases h

end

end Screen

-- ==================================================== typing on the console

namespace Console

/-- The buffer at a place of the palette or of the screen. -/
def buffer? (c : Console) : TextPlace → Option TextBuffer
  | .paletteQuery => some (.line c.palette.query)
  | place => c.screen.buffer? place

/-- The place that has the focus: the query while the palette is open, else one of the screen. -/
def focus? (c : Console) : Option TextPlace :=
  if c.palette.isOpen then some .paletteQuery else c.screen.focus?

section

variable {c : Console} {place : TextPlace}

theorem buffer?_of_screen {b : TextBuffer} (h : c.screen.buffer? place = some b) :
    c.buffer? place = some b := by
  cases place with
  | paletteQuery =>
      -- no screen has the query of the palette
      unfold Screen.buffer? at h
      split at h <;> simp_all
  | _ => exact h

theorem sound_of_buffer? (h : c.screen.Sound) {b : TextBuffer} (hb : c.buffer? place = some b) :
    b.Sound := by
  cases place with
  | paletteQuery =>
      cases hb
      trivial
  | _ => exact Screen.sound_of_buffer? h hb

/-- A character typed with no question in front changes the palette or the screen, and there the
buffer in focus alone. -/
theorem update_typed (hconfirm : c.confirm = none) (hfocus : c.focus? = some place) (now : Moment)
    (ch : Char) :
    ∃ screen palette, palette.isOpen = c.palette.isOpen ∧
      c.update now (.key (.char ch)) = ({ c with screen, palette }, .none) ∧
      (∃ b, c.buffer? place = some b ∧
        { c with screen, palette }.buffer? place = some (b.insert ch)) ∧
      ∀ other, other ≠ place → { c with screen, palette }.buffer? other = c.buffer? other := by
  have hkey : c.update now (.key (.char ch)) =
      if c.palette.isOpen then c.paletteKey (.char ch) else c.openKey now (.char ch) := by
    simp [update, handleKey, hconfirm]
  rw [hkey]
  unfold focus? at hfocus
  split at hfocus
  · next hopen =>
      cases hfocus
      refine ⟨c.screen, c.palette.editQuery (.char ch), rfl, ?_, ⟨_, rfl, rfl⟩, ?_⟩
      · simp [hopen, paletteKey, Palette.handleKey]
      · intro other hother
        cases other with
        | paletteQuery => exact absurd rfl hother
        | _ => rfl
  · next hopen =>
      obtain ⟨screen', hscreen, ⟨b, hbefore, hafter⟩, hothers⟩ := Screen.handleKey_typed hfocus ch
      refine ⟨screen', c.palette, rfl, ?_, ⟨b, buffer?_of_screen hbefore, ?_⟩, ?_⟩
      · simp [hopen, openKey, screenKey, hscreen, applyEffects, addToasts, Effects.none, hconfirm,
          calls, Reply.none]
      · exact buffer?_of_screen hafter
      · intro other hother
        cases other with
        | paletteQuery => rfl
        | _ => exact hothers _ hother

end

/-- A character goes to the text in focus and nowhere else. After any messages whatever, if no
question is in front and a buffer has the focus, then a character is inserted into that buffer, at
its cursor, which comes to stand behind it. No other buffer changes; of the console only the screen
and the palette do, and the palette stays open or shut; nothing goes out and nothing follows. -/
theorem typing_reaches_focused_buffer (settings : Settings) (inputs : List Input)
    {place : TextPlace} (hconfirm : ((start settings).after inputs).confirm = none)
    (hfocus : ((start settings).after inputs).focus? = some place) (now : Moment) (ch : Char) :
    let c := (start settings).after inputs
    ∃ left buffer, c.update now (.key (.char ch)) = (left, .none) ∧
      c.buffer? place = some buffer ∧ left.buffer? place = some (buffer.insert ch) ∧
      (buffer.insert ch).text = buffer.beforeCursor ++ ch :: buffer.afterCursor ∧
      (buffer.insert ch).beforeCursor = buffer.beforeCursor ++ [ch] ∧
      (∀ other, other ≠ place → left.buffer? other = c.buffer? other) ∧
      left = { c with screen := left.screen, palette := left.palette } ∧
      left.palette.isOpen = c.palette.isOpen := by
  intro c
  obtain ⟨screen, palette, hopen, hupdate, ⟨b, hbefore, hafter⟩, hothers⟩ :=
    update_typed hconfirm hfocus now ch
  have hsound : b.Sound := sound_of_buffer? (Screen.sound_invariant.after settings inputs) hbefore
  exact ⟨{ c with screen, palette }, b, hupdate, hbefore, hafter, TextBuffer.text_insert hsound ch,
    TextBuffer.beforeCursor_insert hsound ch, hothers, rfl, hopen⟩

/-- In the code editor neither `q` nor `r` has the meaning that it has on the rest of the screen. -/
theorem letters_in_editor :
    let inputs : List Input :=
      [⟨0, .startup (.code "f") (some "key")⟩, ⟨1, .api ⟨.view, 1⟩ (.loggedIn (.ok ()))⟩,
        ⟨2, .api ⟨.view, 2⟩ (.function (.ok default))⟩, ⟨3, .key .enter⟩, ⟨4, .key (.char 'q')⟩]
    let c := (start {}).after inputs
    c.confirm = none ∧ c.focus? = some .code ∧
      (c.update 5 (.key (.char 'r'))).1.shouldQuit = false ∧
      (c.update 5 (.key (.char 'r'))).1.generation = c.generation ∧
      ((c.update 5 (.key (.char 'r'))).1.buffer? .code).map TextBuffer.text = some ['q', 'r'] := by
  intro inputs c
  have hconfirm : c.confirm = none := by decide +kernel
  have hfocus : c.focus? = some .code := by decide +kernel
  have hquit : c.shouldQuit = false := by decide +kernel
  have hbuffer : c.buffer? .code = some (.page ⟨[['q']], 0, 1⟩) := by decide +kernel
  obtain ⟨left, b, hupdate, hbefore, hafter, -, -, -, hrest, -⟩ :=
    typing_reaches_focused_buffer {} inputs hconfirm hfocus 5 'r'
  obtain rfl : .page ⟨[['q']], 0, 1⟩ = b := Option.some.inj (hbuffer.symm.trans hbefore)
  have hleft : (c.update 5 (.key (.char 'r'))).1 = left := congrArg Prod.fst hupdate
  refine ⟨hconfirm, hfocus, ?_, ?_, ?_⟩
  · rw [hleft, hrest]
    exact hquit
  · rw [hleft, hrest]
  · rw [hleft, hafter]
    rfl

/-- A variable is added and saved, and the function cannot be loaded again. The settings keep the
variable and the place in it, but they have no function to show, and `q` quits. Every response
answers a call. -/
theorem variable_takes_no_letter :
    let f : Function := { (default : Function) with id := "f" }
    let refused : ApiError := .status 503 "unavailable"
    let inputs : List Input :=
      [⟨1, .api ⟨.view, 1⟩ (.loggedIn (.ok ()))⟩, ⟨2, .api ⟨.view, 2⟩ (.function (.ok f))⟩,
        ⟨3, .key .tab⟩, ⟨4, .key (.ctrl 'n')⟩, ⟨5, .key (.char 'A')⟩, ⟨6, .key (.ctrl 's')⟩,
        ⟨7, .api ⟨.view, 2⟩ (.envUpdated (.ok ()))⟩,
        ⟨8, .api ⟨.view, 2⟩ (.function (.error refused))⟩]
    let run : List Input := ⟨0, .startup (.settings "f") (some "key")⟩ :: inputs
    let last := (start {}).through run
    let left := (last.process 9 (.key (.char 'q'))).1
    (∀ i ∈ inputs, i.message.IsExternal) ∧ Truthful [] ((start {}).turns run) ∧
      last.confirm = none ∧ last.palette.isOpen = false ∧
      (∃ s r, last.screen = .settings s ∧ s.sect = .environment ∧
        s.env.rows[s.env.selected]? = some r ∧ r.state ≠ .removed ∧
        left.buffer? (.envCell s.env.selected s.env.column) =
          some (.line (r.cell s.env.column))) ∧
      last.shouldQuit = false ∧ left.shouldQuit = true := by
  intro f refused inputs run last left
  let server : Backend Id :=
    { refusingServer refused with
      login := fun _ => .ok ()
      getFunction := fun _ => .ok f
      updateEnv := fun _ _ => .ok () }
  have hanswered : Truthful [] ((start {}).turns run) := by
    simp only [run, inputs, Console.turns, Truthful, and_true]
    refine ⟨?_, ?_, ?_, ?_, ?_, ?_, ?_, ?_, ?_⟩ <;> intro ticket response h <;> cases h
    · exact ⟨⟨⟨.view, 1⟩, .login "key"⟩, by decide +kernel, rfl, server, rfl⟩
    · exact ⟨⟨⟨.view, 2⟩, .getFunction "f"⟩, by decide +kernel, rfl, server, rfl⟩
    · exact ⟨⟨⟨.view, 2⟩, .updateEnv "f" (.ofList [("A", "")])⟩, by decide +kernel, rfl, server,
        rfl⟩
    · -- by then the server has become unavailable
      exact ⟨⟨⟨.view, 2⟩, .getFunction "f"⟩, by decide +kernel, rfl, refusingServer refused, rfl⟩
  let row : EnvRow := ⟨.ofString "A", .secret, .unchanged⟩
  let shown : SettingsScreen :=
    { id := "f", function := .notFound, sect := .environment, env := { rows := [row] }
      baseUrl := "http://localhost:3000" }
  have hshown : last.screen = .settings shown := by decide +kernel
  exact ⟨by simp [inputs, Message.IsExternal], hanswered, by decide +kernel, by decide +kernel,
    ⟨shown, row, hshown, rfl, rfl, by decide, by decide +kernel⟩, by decide +kernel,
    by decide +kernel⟩

end Console

end FunctionConsole
