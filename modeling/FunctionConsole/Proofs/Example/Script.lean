import FunctionConsole.Proofs.Example.Literals
import FunctionConsole.Proofs.Example.Words
import FunctionConsole.Web.Percent

/-!
# The literals of a script

The rules of texts in single quotes in a script for a browser (ECMAScript, strict code), and what
they make of the example for a call. The body is written with its quotes and backslashes escaped,
but not its line breaks, and the address is not escaped at all; `read_javaScript_iff` says which
calls the script carries unchanged.
-/

namespace FunctionConsole

namespace Script

-- ==================================================== code units

/-- A code point in units of 16 bits. -/
def pointUnits (n : Nat) : List Nat :=
  if n < 0x10000 then [n] else [0xD800 + (n - 0x10000) / 0x400, 0xDC00 + (n - 0x10000) % 0x400]

/-- A character in units of 16 bits, which the value of a text is made of. -/
def units (c : Char) : List Nat := pointUnits c.toNat

theorem length_pointUnits_pos (n : Nat) : 0 < (pointUnits n).length := by
  unfold pointUnits
  split <;> simp

theorem length_pointUnits_le (n : Nat) : (pointUnits n).length ≤ 2 := by
  unfold pointUnits
  split <;> simp

theorem length_units_pos (c : Char) : 0 < (units c).length := length_pointUnits_pos c.toNat

-- ==================================================== texts in single quotes

/-- Where in a text the next character stands: in the text itself, behind a backslash, behind an
escaped zero, behind an escaped carriage return, among the digits of an escape of fixed length, of
which some are still to come after the next, behind `\u`, behind the brace that follows it, or
behind a digit in braces. -/
inductive Mode where
  | text
  | escape
  | zero
  | carriage
  | digits (after value : Nat)
  | unicode
  | brace
  | point (value : Nat)
  deriving DecidableEq, Repr

/-- The text is closed, an escape begins, or the character stands for itself; a line does not end
within the text. -/
def textStep (c : Char) : Option (List Nat × Option Mode) :=
  if c = '\'' then some ([], none)
  else if c = '\\' then some ([], some .escape)
  else if c = '\n' ∨ c = '\r' then none
  else some (units c, some .text)

/-- The characters that are escaped by a letter. -/
def letterEscapes : List (Char × Nat) :=
  [('b', 8), ('t', 9), ('n', 10), ('v', 11), ('f', 12), ('r', 13)]

/-- What stands behind a backslash. A text goes on behind a backslash at the end of a line; digits
other than a zero are no escapes. -/
def escapeStep (c : Char) : Option (List Nat × Option Mode) :=
  match letterEscapes.lookup c with
  | some n => some ([n], some .text)
  | none =>
    if c = 'x' then some ([], some (.digits 1 0))
    else if c = 'u' then some ([], some .unicode)
    else if c = '0' then some ([0], some .zero)
    else if c.isDigit then none
    else if c = '\r' then some ([], some .carriage)
    else if c = '\n' ∨ c = '\u2028' ∨ c = '\u2029' then some ([], some .text)
    else some (units c, some .text)

/-- One of the digits of an escape of fixed length. -/
def digitStep (after value : Nat) (c : Char) : Option (List Nat × Option Mode) :=
  (Web.hexValue? c).map fun digit =>
    match after with
    | 0 => ([16 * value + digit], some .text)
    | n + 1 => ([], some (.digits n (16 * value + digit)))

/-- One of the digits in braces, which are the number of a code point. -/
def pointStep (value : Nat) (c : Char) : Option (List Nat × Option Mode) :=
  (Web.hexValue? c).bind fun digit =>
    if 16 * value + digit ≤ 0x10FFFF then some ([], some (.point (16 * value + digit))) else none

/-- What a character does in a text. -/
def step : Mode → Char → Option (List Nat × Option Mode)
  | .text, c => textStep c
  | .escape, c => escapeStep c
  | .zero, c => if c.isDigit then none else textStep c
  | .carriage, c => if c = '\n' then some ([], some .text) else textStep c
  | .digits after value, c => digitStep after value c
  | .unicode, c => if c = '\x7b' then some ([], some .brace) else digitStep 3 0 c
  | .brace, c => pointStep 0 c
  | .point value, c => if c = '\x7d' then some (pointUnits value, some .text) else pointStep value c

/-- A script with texts in single quotes; other literals and comments are not read. -/
def language : Literals Mode Nat where
  opens c := if c = '\'' then some .text else none
  isCode c := !(['"', '\x60', '/', '\\'].contains c)
  step := step

-- ==================================================== what escapes are worth

/-- A number in braces may give two units at the closing brace. -/
def pending : Mode → Nat
  | .point _ => 1
  | _ => 0

section

variable {m : Mode} {c : Char} {us : List Nat} {next : Option Mode}

theorem textStep_le (h : textStep c = some (us, next)) :
    us = units c ∧ next = some .text ∨ us.length + next.elim 0 pending < (units c).length := by
  have hpos := length_units_pos c
  unfold textStep at h
  split at h
  · cases h
    exact .inr hpos
  · split at h
    · cases h
      exact .inr hpos
    · split at h
      · cases h
      · cases h
        exact .inl ⟨rfl, rfl⟩

theorem length_le_of_textStep (h : textStep c = some (us, next)) :
    us.length + next.elim 0 pending ≤ (units c).length := by
  rcases textStep_le h with ⟨rfl, rfl⟩ | hlt
  · exact Nat.le_refl _
  · exact Nat.le_of_lt hlt

theorem length_le_of_escapeStep (h : escapeStep c = some (us, next)) :
    us.length + next.elim 0 pending ≤ (units c).length := by
  have hpos := length_units_pos c
  unfold escapeStep at h
  split at h
  · cases h
    exact hpos
  · split at h
    · cases h
      exact Nat.zero_le _
    · split at h
      · cases h
        exact Nat.zero_le _
      · split at h
        · cases h
          exact hpos
        · split at h
          · cases h
          · split at h
            · cases h
              exact Nat.zero_le _
            · split at h
              · cases h
                exact Nat.zero_le _
              · cases h
                exact Nat.le_refl _

theorem length_le_of_digitStep {after value : Nat} (h : digitStep after value c = some (us, next)) :
    us.length + next.elim 0 pending ≤ 1 := by
  obtain ⟨digit, -, hstep⟩ := Option.map_eq_some_iff.mp h
  cases after with
  | zero =>
      cases hstep
      exact Nat.le_refl _
  | succ n =>
      cases hstep
      exact Nat.zero_le _

theorem length_le_of_pointStep {value : Nat} (h : pointStep value c = some (us, next)) :
    us.length + next.elim 0 pending ≤ 1 := by
  obtain ⟨digit, -, hstep⟩ := Option.bind_eq_some_iff.mp h
  split at hstep
  · cases hstep
    exact Nat.le_refl _
  · cases hstep

/-- Whatever is escaped takes more than it gives. -/
theorem length_le_of_step (h : step m c = some (us, next)) :
    us.length + next.elim 0 pending ≤ (units c).length + pending m := by
  have hpos := length_units_pos c
  cases m with
  | text => exact length_le_of_textStep h
  | escape => exact length_le_of_escapeStep h
  | zero =>
      rw [step] at h
      split at h
      · cases h
      · exact length_le_of_textStep h
  | carriage =>
      rw [step] at h
      split at h
      · cases h
        exact Nat.zero_le _
      · exact length_le_of_textStep h
  | digits after value => exact Nat.le_trans (length_le_of_digitStep h) hpos
  | unicode =>
      rw [step] at h
      split at h
      · cases h
        exact Nat.zero_le _
      · exact Nat.le_trans (length_le_of_digitStep h) hpos
  | brace => exact Nat.le_trans (length_le_of_pointStep h) hpos
  | point value =>
      rw [step] at h
      split at h
      · cases h
        have hle := length_pointUnits_le value
        show (pointUnits value).length + 0 ≤ (units c).length + 1
        omega
      · have hle := length_le_of_pointStep h
        omega

end

theorem frugal : language.Frugal units .text (fun _ => True) pending where
  within_start := trivial
  step _ h := ⟨fun _ _ => trivial, length_le_of_step h⟩
  plain h := textStep_le h

-- ==================================================== texts between quotes

/-- The characters that stand for themselves in a text. -/
def IsPlain (c : Char) : Prop := c ≠ '\'' ∧ c ≠ '\\' ∧ c ≠ '\n' ∧ c ≠ '\r'

instance decidableIsPlain (c : Char) : Decidable (IsPlain c) := instDecidableAnd

theorem isPlain_of_all {cs : List Char} (h : cs.all (fun c => decide (IsPlain c)) = true) :
    ∀ c ∈ cs, IsPlain c :=
  fun c hc => of_decide_eq_true (List.all_eq_true.mp h c hc)

theorem step_text_iff (c : Char) :
    language.step .text c = some (units c, some .text) ↔ IsPlain c := by
  show textStep c = _ ↔ _
  unfold textStep IsPlain
  by_cases hquote : c = '\''
  · simp [hquote]
  · by_cases hescape : c = '\\'
    · simp [hescape]
    · by_cases hend : c = '\n' ∨ c = '\r'
      · rcases hend with rfl | rfl <;> simp
      · rw [not_or] at hend
        simp [hquote, hescape, hend]

theorem read_quote (cs : List Char) :
    language.read none ('\'' :: cs) = language.read (some (.text, [])) cs := rfl

/-- A text is not read over the end of a line. -/
theorem read_line {between : List Char} (h : ∀ c ∈ between, IsPlain c) (value : List Nat)
    (rest : List Char) : language.read (some (.text, value)) (between ++ '\n' :: rest) = none := by
  rw [Literals.read_plain (fun c hc => (step_text_iff c).mpr (h c hc))]
  rfl

/-- If nothing but plain characters stands between the quote and the end of its line, a text that
should be closed by the quote is not closed behind it. -/
theorem endsAt_quote {between : List Char} (h : ∀ c ∈ between, IsPlain c) (rest : List Char) :
    language.EndsAt (fun _ => True) pending '\'' (between ++ '\n' :: rest) := by
  intro m value value' pieces _ hread
  have hclosed (hstep : language.step m '\'' = some ([], none)) :
      value'.length ≤ value.length + pending m := by
    rw [Literals.read_close hstep] at hread
    obtain ⟨tail, -, htail⟩ := Option.map_eq_some_iff.mp hread
    cases htail
    exact Nat.le_add_right _ _
  have hfault (hstep : language.step m '\'' = none) : value'.length ≤ value.length + pending m := by
    rw [Literals.read, hstep] at hread
    cases hread
  cases m with
  | text | zero | carriage => exact hclosed rfl
  | escape =>
      have hescaped : language.read (some (.escape, value)) ('\'' :: (between ++ '\n' :: rest)) =
          language.read (some (.text, value ++ [39])) (between ++ '\n' :: rest) := rfl
      rw [hescaped, read_line h] at hread
      cases hread
  | digits after value => exact hfault rfl
  | unicode | brace => exact hfault rfl
  | point value => exact hfault rfl

/-- An address between quotes is read back exactly if it has only plain characters. -/
theorem read_address_iff {between : List Char} (h : ∀ c ∈ between, IsPlain c)
    (address rest : List Char) (pieces : List (Piece Nat)) :
    language.read (some (.text, [])) (address ++ '\'' :: (between ++ '\n' :: rest)) =
        some (.literal (address.flatMap units) :: pieces) ↔
      (∀ c ∈ address, IsPlain c) ∧ language.read none (between ++ '\n' :: rest) = some pieces := by
  rw [frugal.read_literal_iff rfl (endsAt_quote h rest)]
  simp only [step_text_iff]

-- ==================================================== escaped bodies

/-- A line ends at one of these. -/
def HasLineEnd (text : List Char) : Prop := '\n' ∈ text ∨ '\r' ∈ text

instance decidableHasLineEnd (text : List Char) : Decidable (HasLineEnd text) := instDecidableOr

/-- An escaped text is read back, if it is one line; otherwise the script is not well formed. -/
theorem read_scriptQuoted (text rest : List Char) (value : List Nat) :
    language.read (some (.text, value)) (CodeExample.scriptQuoted text ++ '\'' :: rest) =
      if HasLineEnd text then none
      else (language.read none rest).map (.literal (value ++ text.flatMap units) :: ·) := by
  induction text generalizing value with
  | nil =>
      rw [if_neg (by simp [HasLineEnd])]
      exact Literals.read_close rfl _ _ |>.trans (by simp)
  | cons c text ih =>
      have hcons : CodeExample.scriptQuoted (c :: text) =
          CodeExample.scriptQuoted [c] ++ CodeExample.scriptQuoted text := by
        simp [CodeExample.scriptQuoted]
      rw [hcons, List.append_assoc]
      by_cases hend : c = '\n' ∨ c = '\r'
      · rw [if_pos (by rcases hend with rfl | rfl <;> simp [HasLineEnd])]
        rcases hend with rfl | rfl <;> rfl
      · -- one character is read, in whichever way it is written
        have hfirst (tail : List Char) :
            language.read (some (.text, value)) (CodeExample.scriptQuoted [c] ++ tail) =
              language.read (some (.text, value ++ units c)) tail := by
          by_cases hescape : c = '\\'
          · subst hescape
            show language.read (some (.text, value ++ [] ++ [92])) tail = _
            rw [List.append_nil]
            rfl
          · by_cases hquote : c = '\''
            · subst hquote
              show language.read (some (.text, value ++ [] ++ [39])) tail = _
              rw [List.append_nil]
              rfl
            · rw [not_or] at hend
              have hplain := (step_text_iff c).mpr ⟨hquote, hescape, hend⟩
              simp [CodeExample.scriptQuoted, hescape, hquote, Literals.read, hplain]
        rw [not_or] at hend
        have htail : HasLineEnd (c :: text) ↔ HasLineEnd text := by
          simp [HasLineEnd, Ne.symm hend.1, Ne.symm hend.2]
        rw [hfirst, ih, List.append_assoc, List.flatMap_cons]
        by_cases htext : HasLineEnd text
        · rw [if_pos htext, if_pos (htail.mpr htext)]
        · rw [if_neg htext, if_neg fun h => htext (htail.mp h)]

end Script

namespace CodeExample

open Script (language units IsPlain HasLineEnd)

-- ==================================================== the parts of a script

/-- The value of a text in a script. -/
def scriptText (text : String) : Piece Nat := .literal (text.toList.flatMap units)

/-- A text in single quotes, as it stands. -/
def inQuotes (text : String) : String := "'" ++ text ++ "'"

/-- What becomes of the answer, up to the last text. -/
def scriptAnswer : String :=
  "\n\x7d)\n  .then(response => response.text())\n  .then(data => console.log(data))\n" ++
    "  .catch(error => console.error("

/-- What is written behind the body, and its pieces. -/
def writtenEnd : String := scriptAnswer ++ inQuotes "Error:" ++ ", error));"

def scriptEnd : List (Piece Nat) :=
  codeOf scriptAnswer ++ [scriptText "Error:"] ++ codeOf ", error));"

/-- What is written for a body, and its pieces. -/
def writtenBody (body : String) : String :=
  "\n  headers: \x7b\n    " ++ inQuotes "Content-Type" ++ ": " ++ inQuotes "application/json" ++
    "\n  \x7d,\n  body: " ++ inQuotes (String.ofList (scriptQuoted body.toList))

def scriptBody (body : String) : List (Piece Nat) :=
  codeOf "\n  headers: \x7b\n    " ++ [scriptText "Content-Type"] ++ codeOf ": " ++
    [scriptText "application/json"] ++ codeOf "\n  \x7d,\n  body: " ++ [scriptText body]

/-- What is written for the address and the method, and its pieces. -/
def writtenCall (method : HttpMethod) (url : String) : String :=
  "fetch(" ++ (inQuotes url ++ ", \x7b\n  method: ") ++ inQuotes method.name ++ ","

def scriptCall (method : HttpMethod) (url : String) : List (Piece Nat) :=
  codeOf "fetch(" ++ (scriptText url :: codeOf ", \x7b\n  method: ") ++ [scriptText method.name] ++
    codeOf ","

/-- The pieces that the script of a call is meant to have. -/
def scriptPieces (method : HttpMethod) (url body : String) : List (Piece Nat) :=
  if Carries method body then
    scriptCall method url ++ scriptBody (Text.trim body) ++ scriptEnd
  else scriptCall method url ++ scriptEnd

/-- The script of a call in its parts. -/
theorem javaScript_eq (method : HttpMethod) (url : String) (body : Option String) :
    javaScript method url body =
      match body with
      | some b => writtenCall method url ++ writtenBody b ++ writtenEnd
      | none => writtenCall method url ++ writtenEnd := by
  have hfetch : "fetch('" = "fetch(" ++ "'" := rfl
  have hmethod : "', \x7b\n  method: '" = "'" ++ (", \x7b\n  method: " ++ "'") := rfl
  have hcomma : "'," = "'" ++ "," := rfl
  have hheaders : "\n  headers: \x7b\n    'Content-Type': 'application/json'\n  \x7d,\n  body: '" =
      "\n  headers: \x7b\n    " ++ ("'Content-Type'" ++ (": " ++ ("'application/json'" ++
        ("\n  \x7d,\n  body: " ++ "'")))) := rfl
  have hend : "  .catch(error => console.error('Error:', error));" =
      "  .catch(error => console.error(" ++ ("'Error:'" ++ ", error));") := rfl
  have htype : inQuotes "Content-Type" = "'Content-Type'" := rfl
  have hjson : inQuotes "application/json" = "'application/json'" := rfl
  have herror : inQuotes "Error:" = "'Error:'" := rfl
  unfold javaScript writtenCall writtenBody writtenEnd scriptAnswer
  rw [hfetch, hmethod, hcomma, hend, htype, hjson, herror]
  cases body with
  | none => simp only [inQuotes, String.append_assoc, String.empty_append]
  | some b => simp only [hheaders, inQuotes, String.append_assoc]

-- ==================================================== scripts that are read

theorem toList_inQuotes (text : String) :
    (inQuotes text).toList = '\'' :: (text.toList ++ ['\'']) := by
  simp [inQuotes]

/-- A text without quotes, escapes and line ends is read as it stands. -/
theorem reads_inQuotes {text : String}
    (h : text.toList.all (fun c => decide (IsPlain c)) = true) :
    language.Reads True (inQuotes text) [scriptText text] :=
  Literals.reads_literal (toList_inQuotes text) rfl rfl
    fun c hc => (Script.step_text_iff c).mpr (Script.isPlain_of_all h c hc)

theorem reads_scriptQuoted (text : String) :
    language.Reads (¬HasLineEnd text.toList) (inQuotes (String.ofList (scriptQuoted text.toList)))
      [scriptText text] := by
  intro rest pieces
  rw [toList_inQuotes, String.toList_ofList, List.cons_append, List.append_assoc, Script.read_quote,
    List.singleton_append, Script.read_scriptQuoted, List.singleton_append]
  by_cases hline : HasLineEnd text.toList
  · simp [hline]
  · simp [hline, scriptText]

/-- The line of the address ends soon behind it. -/
theorem reads_address (url : String) :
    language.Reads (∀ c ∈ url.toList, IsPlain c) (inQuotes url ++ ", \x7b\n  method: ")
      (scriptText url :: codeOf ", \x7b\n  method: ") := by
  have hline (tail : List Char) : ", \x7b\n  method: ".toList ++ tail =
      [',', ' ', '\x7b'] ++ '\n' :: ("  method: ".toList ++ tail) := by
    rw [String.toList_ofList, String.toList_ofList]
    rfl
  have hmethod : language.Reads True ", \x7b\n  method: " (codeOf ", \x7b\n  method: ") :=
    Literals.reads_code_ofList _ rfl
  intro rest pieces
  rw [String.toList_append, toList_inQuotes, List.cons_append, List.append_assoc, List.cons_append,
    List.append_assoc, List.singleton_append, List.cons_append, List.cons_append, Script.read_quote,
    hline, scriptText, Script.read_address_iff (Script.isPlain_of_all rfl), ← hline, hmethod, true_and]

theorem all_isPlain_name (method : HttpMethod) :
    method.name.toList.all (fun c => decide (IsPlain c)) = true := by
  cases method <;> rfl

theorem reads_writtenCall (method : HttpMethod) (url : String) :
    language.Reads (∀ c ∈ url.toList, IsPlain c) (writtenCall method url)
      (scriptCall method url) := by
  have hfetch : language.Reads True "fetch(" (codeOf "fetch(") :=
    Literals.reads_code_ofList _ rfl
  have hcomma : language.Reads True "," (codeOf ",") :=
    Literals.reads_code_ofList _ rfl
  have hcall := ((hfetch.append (reads_address url)).append
    (reads_inQuotes (all_isPlain_name method))).append hcomma
  exact hcall.congr (by simp only [true_and, and_true])

theorem reads_writtenBody (body : String) :
    language.Reads (¬HasLineEnd body.toList) (writtenBody body) (scriptBody body) := by
  have hheaders : language.Reads True "\n  headers: \x7b\n    "
      (codeOf "\n  headers: \x7b\n    ") :=
    Literals.reads_code_ofList _ rfl
  have htype : language.Reads True (inQuotes "Content-Type") [scriptText "Content-Type"] :=
    reads_inQuotes (by rw [String.toList_ofList]; rfl)
  have hcolon : language.Reads True ": " (codeOf ": ") :=
    Literals.reads_code_ofList _ rfl
  have hjson : language.Reads True (inQuotes "application/json") [scriptText "application/json"] :=
    reads_inQuotes (by rw [String.toList_ofList]; rfl)
  have hbody : language.Reads True "\n  \x7d,\n  body: " (codeOf "\n  \x7d,\n  body: ") :=
    Literals.reads_code_ofList _ rfl
  have hall := ((((hheaders.append htype).append hcolon).append hjson).append hbody).append
    (reads_scriptQuoted body)
  exact hall.congr (by simp only [true_and])

theorem reads_writtenEnd : language.Reads True writtenEnd scriptEnd := by
  have hanswer : language.Reads True scriptAnswer (codeOf scriptAnswer) :=
    Literals.reads_code _ (by
      unfold scriptAnswer
      rw [String.toList_append, String.toList_ofList, String.toList_ofList]
      rfl)
  have herror : language.Reads True (inQuotes "Error:") [scriptText "Error:"] :=
    reads_inQuotes (by rw [String.toList_ofList]; rfl)
  have hlast : language.Reads True ", error));" (codeOf ", error));") :=
    Literals.reads_code_ofList _ rfl
  exact ((hanswer.append herror).append hlast).congr (by simp only [and_self])

/-- The script of a call is read as it is meant exactly if the address has only plain characters and
the body is one line. -/
theorem read_javaScript_iff (method : HttpMethod) (url body : String) :
    language.read none (generate .javaScript method url body).toList =
        some (scriptPieces method url body) ↔
      (∀ c ∈ url.toList, IsPlain c) ∧
        (Carries method body → ¬HasLineEnd (Text.trim body).toList) := by
  show language.read none (javaScript method url (body? method body)).toList = _ ↔ _
  rw [javaScript_eq, body?_eq]
  unfold scriptPieces
  by_cases hbody : Carries method body
  · rw [if_pos hbody, if_pos hbody]
    dsimp only
    rw [(((reads_writtenCall method url).append (reads_writtenBody _)).append
      reads_writtenEnd).read_iff]
    simp only [hbody, and_true, true_implies]
  · rw [if_neg hbody, if_neg hbody]
    dsimp only
    rw [((reads_writtenCall method url).append reads_writtenEnd).read_iff]
    simp only [hbody, and_true, false_implies]

end CodeExample

end FunctionConsole
