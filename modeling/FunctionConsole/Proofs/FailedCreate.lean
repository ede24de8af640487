import FunctionConsole.Proofs.BarePicture
import FunctionConsole.Proofs.Submissions

/-!
# A create that failed

What is left to see when the server does not create a function. A refusal that is about the name or
the description is drawn under its field, and whatever is not about a field is told in a toast. A
refusal about any other field is kept by the screen, but the form has no line for it: the picture is
the same as if nothing had come (`failed_create_told_or_drawn`).

That a fault is seen under its field is a fact about the whole picture: its line is drawn, and
nothing that is drawn after it reaches the line, since the areas of the picture have no cell in
common.
-/

namespace FunctionConsole

open Buffer

-- ==================================================== faults under fields

namespace InputField

/-- A field has its rows, and its fault the columns that it takes. -/
def Fits (f : InputField) (area : Rect) : Prop :=
  f.height ≤ area.height ∧ ∀ fault, f.help = some (.fault fault) →
    1 + Text.width fault.toList ≤ area.width ∧ 1 + shownWidth fault ≤ area.width

instance decidableFits (f : InputField) (area : Rect) : Decidable (f.Fits area) :=
  match h : f.help with
  | some (.fault fault) => decidable_of_iff
      (f.height ≤ area.height ∧ 1 + Text.width fault.toList ≤ area.width ∧
        1 + shownWidth fault ≤ area.width) (by simp [Fits, h])
  | some (.normal _) => decidable_of_iff (f.height ≤ area.height) (by simp [Fits, h])
  | none => decidable_of_iff (f.height ≤ area.height) (by simp [Fits, h])

/-- A field that fits shows its fault. -/
theorem draw_shows {f : InputField} {area : Rect} {b : Buffer} {fault : String} (hb : b.Full)
    (hin : b.Holds area) (hfits : f.Fits area) (hhelp : f.help = some (.fault fault))
    (hvisible : 0 < Text.width fault.toList) : (f.draw area b).Shows area (shownText fault) := by
  have hrows : boxHeight < area.height := by
    have hheight := hfits.1
    rw [height, hhelp] at hheight
    exact hheight
  have hinput := f.drawInput_changesOnly area b
  have hline : (f.draw area b) =
      (f.drawInput area b).drawLine (area.row boxHeight) (HelpText.fault fault).line := by
    rw [draw_eq, hhelp]
    exact if_pos hrows
  obtain ⟨hwidth, hshown⟩ := hfits.2 fault hhelp
  obtain ⟨hright, hbottom⟩ := hin
  have hlast : area.bottom = area.y + area.height := rfl
  have hshows := drawFault_shows (area.row boxHeight) (hinput.full hb)
    ⟨by rw [hinput.width]; exact hright, by
      rw [hinput.height]
      show area.y + boxHeight + 1 ≤ b.height
      omega⟩ Nat.one_pos hvisible hwidth hshown
  rw [hline]
  exact hshows.mono (Nat.le_refl _) (Nat.le_refl _) (Nat.le_add_right _ _)
    (show area.y + boxHeight + 1 ≤ area.bottom by omega)

end InputField

-- ==================================================== the picture of the form

namespace CreateScreen

/-- The parts of the form. -/
def formParts (s : CreateScreen) (area : Rect) : List Rect :=
  Layout.rows (card.inner area)
    [.length s.nameField.height, .length s.descriptionField.height, .length 1,
     .length Template.all.length, .min 0, .length 1]

/-- What the name has of the form, and what the description has of it. -/
def Fits (s : CreateScreen) (area : Rect) : Prop :=
  s.nameField.Fits (Layout.part (s.formParts area) 0) ∧
    s.descriptionField.Fits (Layout.part (s.formParts area) 1)

instance decidableFits (s : CreateScreen) (area : Rect) : Decidable (s.Fits area) := instDecidableAnd

/-- The form and the template side by side. -/
def sides (area : Rect) : List Rect := Layout.columns area [.percentage 50, .percentage 50] 1

section

variable (s : CreateScreen) (area : Rect) (b : Buffer)

/-- The form, up to the field for the name. -/
def drawName : Buffer :=
  s.nameField.draw (Layout.part (s.formParts area) 0) (card.draw area b)

/-- The form, up to the field for the description. -/
def drawDescription : Buffer :=
  s.descriptionField.draw (Layout.part (s.formParts area) 1) (s.drawName area b)

theorem drawForm_eq : s.drawForm area b =
    s.button.draw (Layout.part (s.formParts area) 5)
      (((s.drawDescription area b).drawLine (Layout.part (s.formParts area) 2)
        s.templateLabel).drawParagraph (Layout.part (s.formParts area) 3)
          { lines := s.templateLines }) := rfl

theorem draw_eq : s.draw area b =
    s.drawTemplate (Layout.part (sides area) 1) (s.drawForm (Layout.part (sides area) 0) b) := rfl

theorem formParts_within (i : Nat) : (Layout.part (s.formParts area) i).Within area :=
  (Layout.rows_inside _ _ i).trans (card.inner_within area)

theorem formParts_apart {i j : Nat} (h : i ≠ j) :
    (Layout.part (s.formParts area) i).Apart (Layout.part (s.formParts area) j) :=
  Layout.rows_apart _ _ h

theorem drawName_changesOnly : b.ChangesOnly area (s.drawName area b) :=
  (card.draw_changesOnly area b).trans
    ((s.nameField.draw_changesOnly _ _).mono (s.formParts_within area 0))

theorem drawDescription_changesOnly : b.ChangesOnly area (s.drawDescription area b) :=
  (s.drawName_changesOnly area b).trans
    ((s.descriptionField.draw_changesOnly _ _).mono (s.formParts_within area 1))

/-- What is drawn of the form after the fields leaves the fields as they are. -/
theorem drawForm_keeps {i : Nat} (hi : i < 2) {t : List Char}
    (h : (s.drawDescription area b).Shows (Layout.part (s.formParts area) i) t) :
    (s.drawForm area b).Shows (Layout.part (s.formParts area) i) t := by
  rw [drawForm_eq]
  have hlabel := h.kept (drawLine_changesOnly _ s.templateLabel)
    (s.formParts_apart area (i := i) (j := 2) (by omega))
  have htemplates := hlabel.kept (drawParagraph_changesOnly _ (p := { lines := s.templateLines }) rfl)
    (s.formParts_apart area (i := i) (j := 3) (by omega))
  exact htemplates.kept (s.button.draw_changesOnly _ _) (s.formParts_apart area (by omega))

theorem drawForm_changesOnly : b.ChangesOnly area (s.drawForm area b) := by
  rw [drawForm_eq]
  have hlabel := drawLine_changesOnly (b := s.drawDescription area b)
    (Layout.part (s.formParts area) 2) s.templateLabel
  have htemplates := drawParagraph_changesOnly
    (b := (s.drawDescription area b).drawLine (Layout.part (s.formParts area) 2) s.templateLabel)
    (Layout.part (s.formParts area) 3) (p := { lines := s.templateLines }) rfl
  exact (s.drawDescription_changesOnly area b).trans
    ((hlabel.mono (s.formParts_within area 2)).trans
      ((htemplates.mono (s.formParts_within area 3)).trans
        ((s.button.draw_changesOnly _ _).mono (s.formParts_within area 5))))

theorem drawTemplate_changesOnly : b.ChangesOnly area (s.drawTemplate area b) := by
  unfold drawTemplate
  dsimp only
  exact (Card.draw_changesOnly area b _).trans
    ((CodeView.draw_changesOnly _ _ _).mono (Card.inner_within area _))

theorem draw_changesOnly : b.ChangesOnly area (s.draw area b) := by
  rw [draw_eq]
  exact ((s.drawForm_changesOnly _ b).mono (Layout.columns_inside area _ 1 0)).trans
    ((s.drawTemplate_changesOnly _ _).mono (Layout.columns_inside area _ 1 1))

/-- The fields that have a line for their fault. -/
def drawnFields : List String := ["name", "description"]

/-- The form shows the fault of each of these fields, if it has its rows and columns. -/
theorem draw_shows {field fault : String} (hb : b.Full) (harea : area.Within b.area)
    (hfits : s.Fits (Layout.part (sides area) 0)) (hfield : field ∈ drawnFields)
    (hfault : s.fieldError field = some fault) (hvisible : 0 < Text.width fault.toList) :
    ∃ r, b.Holds r ∧ r.Within area ∧ (s.draw area b).Shows r (shownText fault) := by
  generalize hform : Layout.part (sides area) 0 = form at hfits
  have hwithin : form.Within area := hform ▸ Layout.columns_inside area _ 1 0
  -- a field with its rows, and its fault, lies in the grid
  have holds_of_fits {f : InputField} {i : Nat} (hf : f.Fits (Layout.part (s.formParts form) i))
      (hhelp : f.help = some (.fault fault)) : b.Holds (Layout.part (s.formParts form) i) := by
    refine holds_of_within (((s.formParts_within form i).trans hwithin).trans harea) ?_ ?_
    · have hwidth := (hf.2 fault hhelp).1
      omega
    · have hheight := hf.1
      rw [InputField.height, InputField.boxHeight] at hheight
      omega
  have hshown : ∃ i < 2, b.Holds (Layout.part (s.formParts form) i) ∧
      (s.drawDescription form b).Shows (Layout.part (s.formParts form) i) (shownText fault) := by
    have hcard := card.draw_changesOnly form b
    have hname := s.drawName_changesOnly form b
    simp only [drawnFields, List.mem_cons, List.not_mem_nil, or_false] at hfield
    rcases hfield with rfl | rfl
    · have hhelp : s.nameField.help = some (.fault fault) := by rw [nameField, hfault]; rfl
      have hin := holds_of_fits hfits.1 hhelp
      have hline := InputField.draw_shows (hcard.full hb) (hin.kept hcard) hfits.1 hhelp hvisible
      exact ⟨0, by omega, hin, hline.kept (s.descriptionField.draw_changesOnly _ _)
        (s.formParts_apart form (by omega))⟩
    · have hhelp : s.descriptionField.help = some (.fault fault) := by
        rw [descriptionField, hfault]
        rfl
      have hin := holds_of_fits hfits.2 hhelp
      exact ⟨1, by omega, hin,
        InputField.draw_shows (hname.full hb) (hin.kept hname) hfits.2 hhelp hvisible⟩
  obtain ⟨i, hi, hin, hshows⟩ := hshown
  have hpart := (s.formParts_within form i).trans hwithin
  refine ⟨_, hin, hpart, ?_⟩
  rw [draw_eq, hform]
  refine (s.drawForm_keeps form b hi hshows).kept (s.drawTemplate_changesOnly _ _) ?_
  -- the template is beside the form
  have hsides : form.Apart (Layout.part (sides area) 1) :=
    hform ▸ Layout.columns_apart area _ 1 Nat.zero_ne_one
  exact hsides.mono (s.formParts_within form i) fun _ _ h => h

end

-- ==================================================== faults that are kept

/-- A fault that is put is found under its field, and the others are as they were. -/
theorem fieldError_put (s : CreateScreen) (field fault other : String) :
    ({ s with errors := putField field fault s.errors } : CreateScreen).fieldError other =
      if other = field then some fault else s.fieldError other := by
  unfold fieldError
  induction s.errors with
  | nil =>
      by_cases h : other = field
      · simp [putField, h]
      · simp [putField, h, Ne.symm h]
  | cons e rest ih =>
      obtain ⟨k, v⟩ := e
      dsimp only at ih ⊢
      unfold putField
      by_cases h : other = field
      · subst h
        rw [if_pos rfl] at ih ⊢
        split
        · simp
        · next hk =>
          split
          · simp
          · rw [List.find?_cons_of_neg (by simpa using Ne.symm hk), ih]
      · rw [if_neg h] at ih ⊢
        split
        · next hk =>
          subst hk
          simp [Ne.symm h]
        · split
          · rw [List.find?_cons_of_neg (by simpa using Ne.symm h)]
          · rw [List.find?_cons, List.find?_cons]
            split
            · rfl
            · exact ih

/-- Of the faults only those of the name and of the description are drawn. -/
theorem draw_congr_errors (s : CreateScreen) {errors : List (String × String)}
    (h : ∀ field ∈ drawnFields,
      ({ s with errors } : CreateScreen).fieldError field = s.fieldError field) :
    ({ s with errors } : CreateScreen).draw = s.draw := by
  have hname : ({ s with errors } : CreateScreen).nameField = s.nameField := by
    unfold nameField
    rw [h "name" (by simp [drawnFields])]
  have hdescription : ({ s with errors } : CreateScreen).descriptionField = s.descriptionField := by
    unfold descriptionField
    rw [h "description" (by simp [drawnFields])]
  funext area b
  unfold draw drawForm
  rw [hname, hdescription]
  rfl

-- ==================================================== the picture of the console

/-- Forms that are drawn alike make the same picture. -/
theorem frame_congr {s s' : CreateScreen} (h : s.draw = s'.draw) (c : Console) (zone : TimeZone)
    (width height : Nat) :
    ({ c with screen := .create s } : Console).frame zone width height =
      ({ c with screen := .create s' } : Console).frame zone width height := by
  unfold Console.frame
  dsimp only [Screen.draw]
  rw [h]
  rfl

/-- The area of the form in a picture of a size. -/
def formArea (width height : Nat) : Rect :=
  Layout.part (sides (Console.screenArea width height)) 0

/-- The picture of a console with nothing in front of the form shows the faults of the form. -/
theorem frame_shows {s : CreateScreen} {c : Console} {zone : TimeZone} {width height : Nat}
    {field fault : String} (hscreen : c.screen = .create s) (hbare : c.Bare)
    (hfits : s.Fits (formArea width height)) (hfield : field ∈ drawnFields) (hfault : s.fieldError field = some fault)
    (hvisible : 0 < Text.width fault.toList) :
    ∃ y < height,
      shownText fault <:+: ((c.frame zone width height).rowCells y).flatMap Cell.text := by
  have hscreenDraw : c.drawScreen zone width height =
      s.draw (Console.screenArea width height) (c.drawTrail width height) := by
    rw [Console.drawScreen, hscreen]
    rfl
  obtain ⟨r, hin, hr, hshows⟩ := s.draw_shows _ _ (c.drawTrail_full width height)
    (c.screenArea_within width height) hfits hfield hfault hvisible
  have hdraw := s.draw_changesOnly (Console.screenArea width height) (c.drawTrail width height)
  rw [← hscreenDraw] at hshows hdraw
  exact Console.frame_reads hbare hdraw hr hin hshows

/-- A failed create leaves the form to be sent again. What it failed of is told in a toast, unless
it is about a field. A fault of the name or of the description that takes a column at all is not told,
but drawn: every picture with nothing in front of the form, in which the fields have their rows and
their faults the columns, reads the fault in one of its rows. A fault of any other field is neither
told nor drawn: the screen keeps it, and every picture is the same as if the answer had brought no
fault. -/
theorem failed_create_told_or_drawn (s : CreateScreen) (e : ApiError) :
    let (s', effects) := s.handleResponse (.functionCreated (.error e))
    s'.submitting = false ∧
    match e with
    | .validation field fault =>
      effects = .none ∧
      (∀ other, s'.fieldError other = if other = field then some fault else s.fieldError other) ∧
      (field ∈ drawnFields → 0 < Text.width fault.toList →
        ∀ (c : Console) (zone : TimeZone) (width height : Nat), c.screen = .create s' → c.Bare →
          s'.Fits (formArea width height) →
          ∃ y < height,
            shownText fault <:+: ((c.frame zone width height).rowCells y).flatMap Cell.text) ∧
      (field ∉ drawnFields →
        ∀ (c : Console) (zone : TimeZone) (width height : Nat),
          ({ c with screen := .create s' } : Console).frame zone width height =
            ({ c with screen := .create { s with submitting := false } } : Console).frame zone width
              height)
    | e => effects = .failure ("Failed to create function: " ++ e.message) := by
  cases e with
  | validation field fault =>
      refine ⟨rfl, rfl, s.fieldError_put field fault, fun hfield hvisible c zone width height
        hscreen hbare hfits => ?_, fun hfield c zone width height => ?_⟩
      · refine frame_shows hscreen hbare hfits hfield ?_ hvisible
        exact (s.fieldError_put field fault field).trans (if_pos rfl)
      · let plain : CreateScreen := { s with submitting := false }
        have hdraw : ({ plain with errors := putField field fault s.errors } : CreateScreen).draw =
            plain.draw := by
          refine plain.draw_congr_errors fun other hother => ?_
          have hne : other ≠ field := fun heq => hfield (heq ▸ hother)
          exact (s.fieldError_put field fault other).trans (if_neg hne)
        exact frame_congr hdraw c zone width height
  | network _ | decode _ | status _ _ => exact ⟨rfl, rfl⟩

/-- The form with a name, sent. -/
def sent : CreateScreen := { name := { chars := ['x'], cursor := 1 }, submitting := true }

/-- A name that is refused is drawn in a picture of 60 columns and 22 rows. -/
theorem refused_name_is_drawn :
    let s' := (sent.handleResponse
      (.functionCreated (.error (.validation "name" "must be lowercase")))).1
    let c : Console := { Console.start {} with screen := .create s' }
    ∃ y < 22,
      "must be lowercase".toList <:+: ((c.frame .utc 60 22).rowCells y).flatMap Cell.text := by
  intro s' c
  rw [← shownText_of_plain "must be lowercase" (by decide)]
  exact (failed_create_told_or_drawn sent (.validation "name" "must be lowercase")).2.2.2.1
    (by simp [drawnFields]) (by decide +kernel) c .utc 60 22 rfl ⟨rfl, rfl, rfl⟩ (by decide +kernel)

/-- Code that is refused is not told and not drawn, whatever the size of the picture. -/
theorem refused_code_is_unseen :
    let s := { sent with submitting := false }
    let refusal : Response :=
      .functionCreated (.error (.validation "code" "must export a handler"))
    let s' := (sent.handleResponse refusal).1
    let create := Request.createFunction
      { name := "x", description := "", code := (Template.get 0).code }
    Screen.History [.sent create, .answered 0 refusal] (.create s') ∧
      (sent.handleResponse refusal).2.toasts = [] ∧
      ∀ (c : Console) (zone : TimeZone) (width height : Nat),
        ({ c with screen := .create s' } : Console).frame zone width height =
          ({ c with screen := .create s } : Console).frame zone width height := by
  intro s refusal s' create
  have hopened : Screen.History [] (.create {}) := .opened (.address ⟨20, ""⟩ .create)
  have htyped := hopened.press (.char 'x') (.create { name := { chars := ['x'], cursor := 1 } }) []
    rfl
  have hsent := htyped.press (.ctrl 's') (.create sent) [create] rfl
  have hrefused := hsent.receive 0 refusal ⟨rfl, by simp⟩
    ⟨refusingServer (.validation "code" "must export a handler"), rfl⟩ rfl rfl
  have hdraw : s'.draw = s.draw := by
    refine s.draw_congr_errors fun field hfield => ?_
    simp only [drawnFields, List.mem_cons, List.not_mem_nil, or_false] at hfield
    rcases hfield with rfl | rfl <;> decide
  exact ⟨hrefused, rfl, frame_congr hdraw⟩

end CreateScreen

end FunctionConsole
