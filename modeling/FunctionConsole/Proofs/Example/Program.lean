import FunctionConsole.Proofs.Example.Script

/-!
# The literals of a program

The rules of interpreted and of raw texts in a program (the Go specification, "String literals"),
and what they make of the example for a call. The address stands in an interpreted text, the body in
a raw one, and neither is escaped; `read_go_iff` says which calls the program carries unchanged, and
`scripts_and_programs_carry_plain_texts` compares it with the script.
-/

namespace FunctionConsole

namespace Program

-- ==================================================== interpreted and raw texts

/-- The bytes of a character, which the value of a text is made of. -/
def bytes (c : Char) : List UInt8 := String.utf8EncodeChar c

/-- Where in a text the next character stands: in a raw text, in an interpreted one, behind a
backslash there, or among the digits of an escape for a byte in base 8 or in base 16, or for a code
point; of the digits some are still to come after the next. -/
inductive Mode where
  | raw
  | text
  | escape
  | octal (after value : Nat)
  | byte (after value : Nat)
  | point (after value : Nat)
  deriving DecidableEq, Repr

/-- The raw text is closed, or the character stands for itself; carriage returns are left out. -/
def rawStep (c : Char) : List UInt8 × Option Mode :=
  if c = '\x60' then ([], none)
  else if c = '\r' then ([], some .raw)
  else (bytes c, some .raw)

/-- The text is closed, an escape begins, or the character stands for itself; a line does not end
within an interpreted text. -/
def textStep (c : Char) : Option (List UInt8 × Option Mode) :=
  if c = '"' then some ([], none)
  else if c = '\\' then some ([], some .escape)
  else if c = '\n' then none
  else some (bytes c, some .text)

/-- The characters that are escaped by one character. -/
def shortEscapes : List (Char × UInt8) :=
  [('a', 7), ('b', 8), ('f', 12), ('n', 10), ('r', 13), ('t', 9), ('v', 11), ('\\', 92), ('"', 34)]

/-- A digit in base 8. -/
def octalValue? (c : Char) : Option Nat :=
  if '0' ≤ c ∧ c ≤ '7' then some (c.toNat - '0'.toNat) else none

/-- What stands behind a backslash. -/
def escapeStep (c : Char) : Option (List UInt8 × Option Mode) :=
  match shortEscapes.lookup c with
  | some b => some ([b], some .text)
  | none =>
    if c = 'x' then some ([], some (.byte 1 0))
    else if c = 'u' then some ([], some (.point 3 0))
    else if c = 'U' then some ([], some (.point 7 0))
    else (octalValue? c).map fun digit => ([], some (.octal 1 digit))

/-- What a character does in a text. -/
def step : Mode → Char → Option (List UInt8 × Option Mode)
  | .raw, c => some (rawStep c)
  | .text, c => textStep c
  | .escape, c => escapeStep c
  | .octal after value, c =>
    (octalValue? c).bind fun digit =>
      match after with
      | 0 =>
        if 8 * value + digit < 256 then some ([UInt8.ofNat (8 * value + digit)], some .text)
        else none
      | n + 1 => some ([], some (.octal n (8 * value + digit)))
  | .byte after value, c =>
    (Web.hexValue? c).map fun digit =>
      match after with
      | 0 => ([UInt8.ofNat (16 * value + digit)], some .text)
      | n + 1 => ([], some (.byte n (16 * value + digit)))
  | .point after value, c =>
    (Web.hexValue? c).bind fun digit =>
      match after with
      | 0 =>
        if (16 * value + digit).isValidChar then
          some (bytes (Char.ofNat (16 * value + digit)), some .text)
        else none
      | n + 1 => some ([], some (.point n (16 * value + digit)))

/-- A program with texts of both kinds; other literals and comments are not read. -/
def language : Literals Mode UInt8 where
  opens c := if c = '"' then some .text else if c = '\x60' then some .raw else none
  isCode c := !(['\'', '/', '\\'].contains c)
  step := step

-- ==================================================== what escapes are worth

/-- A code point may give four bytes at its last digit. -/
def pending : Mode → Nat
  | .point after _ => 3 - after
  | _ => 0

theorem length_bytes_pos (c : Char) : 0 < (bytes c).length := by
  unfold bytes
  rw [String.length_utf8EncodeChar]
  exact Char.utf8Size_pos c

theorem length_bytes_le (c : Char) : (bytes c).length ≤ 4 := by
  unfold bytes
  rw [String.length_utf8EncodeChar]
  exact Char.utf8Size_le_four c

section

variable {m : Mode} {c : Char} {us : List UInt8} {next : Option Mode}

theorem rawStep_le (h : rawStep c = (us, next)) :
    us = bytes c ∧ next = some .raw ∨ us.length + next.elim 0 pending < (bytes c).length := by
  have hpos := length_bytes_pos c
  unfold rawStep at h
  split at h
  · cases h
    exact .inr hpos
  · split at h
    · cases h
      exact .inr hpos
    · cases h
      exact .inl ⟨rfl, rfl⟩

theorem textStep_le (h : textStep c = some (us, next)) :
    us = bytes c ∧ next = some .text ∨ us.length + next.elim 0 pending < (bytes c).length := by
  have hpos := length_bytes_pos c
  unfold textStep at h
  split at h
  · cases h
    exact .inr hpos
  · split at h
    · cases h
      exact .inr hpos
    · split at h
      · cases h
      · cases h
        exact .inl ⟨rfl, rfl⟩

theorem length_le_of_escapeStep (h : escapeStep c = some (us, next)) :
    us.length + next.elim 0 pending ≤ 1 := by
  unfold escapeStep at h
  split at h
  · cases h
    exact Nat.le_refl _
  · split at h
    · cases h
      exact Nat.zero_le _
    · split at h
      · cases h
        exact Nat.zero_le _
      · split at h
        · cases h
          exact Nat.zero_le _
        · obtain ⟨digit, -, hstep⟩ := Option.map_eq_some_iff.mp h
          cases hstep
          exact Nat.zero_le _

/-- Whatever is escaped takes more than it gives. -/
theorem length_le_of_step (h : step m c = some (us, next)) :
    us.length + next.elim 0 pending ≤ (bytes c).length + pending m := by
  have hpos := length_bytes_pos c
  cases m with
  | raw =>
      rcases rawStep_le (Option.some.inj h) with ⟨rfl, rfl⟩ | hlt
      · exact Nat.le_refl _
      · exact Nat.le_of_lt hlt
  | text =>
      rcases textStep_le h with ⟨rfl, rfl⟩ | hlt
      · exact Nat.le_refl _
      · exact Nat.le_of_lt hlt
  | escape => exact Nat.le_trans (length_le_of_escapeStep h) hpos
  | octal after value =>
      obtain ⟨digit, -, hstep⟩ := Option.bind_eq_some_iff.mp h
      cases after with
      | zero =>
          dsimp only at hstep
          split at hstep
          · cases hstep
            exact hpos
          · cases hstep
      | succ n =>
          cases hstep
          exact Nat.zero_le _
  | byte after value =>
      obtain ⟨digit, -, hstep⟩ := Option.map_eq_some_iff.mp h
      cases after with
      | zero =>
          cases hstep
          exact hpos
      | succ n =>
          cases hstep
          exact Nat.zero_le _
  | point after value =>
      obtain ⟨digit, -, hstep⟩ := Option.bind_eq_some_iff.mp h
      cases after with
      | zero =>
          dsimp only at hstep
          split at hstep
          · cases hstep
            have hle := length_bytes_le (Char.ofNat (16 * value + digit))
            show _ + 0 ≤ _ + 3
            omega
          · cases hstep
      | succ n =>
          cases hstep
          show 0 + (3 - n) ≤ (bytes c).length + (3 - (n + 1))
          omega

/-- A text goes on as it began, raw or interpreted. -/
theorem raw_iff_of_step {m' : Mode} (h : step m c = some (us, some m')) : m' = .raw ↔ m = .raw := by
  cases m with
  | raw => grind [step, rawStep]
  | text => grind [step, textStep]
  | escape => grind [step, escapeStep, Option.map_eq_some_iff]
  | octal after value =>
      obtain ⟨digit, -, hstep⟩ := Option.bind_eq_some_iff.mp h
      cases after <;> grind
  | byte after value =>
      obtain ⟨digit, -, hstep⟩ := Option.map_eq_some_iff.mp h
      cases after <;> grind
  | point after value =>
      obtain ⟨digit, -, hstep⟩ := Option.bind_eq_some_iff.mp h
      cases after <;> grind

end

theorem frugal_raw : language.Frugal bytes .raw (· = .raw) pending where
  within_start := rfl
  step hm h := ⟨fun _ hm' => (raw_iff_of_step (hm' ▸ h)).mpr hm, length_le_of_step h⟩
  plain h := rawStep_le (Option.some.inj h)

theorem frugal_text : language.Frugal bytes .text (· ≠ .raw) pending where
  within_start := Mode.noConfusion
  step hm h := ⟨fun _ hm' hraw => hm ((raw_iff_of_step (hm' ▸ h)).mp hraw), length_le_of_step h⟩
  plain h := textStep_le h

-- ==================================================== texts between delimiters

/-- The characters that stand for themselves in a raw text. -/
def IsRaw (c : Char) : Prop := c ≠ '\x60' ∧ c ≠ '\r'

/-- The characters that stand for themselves in an interpreted text. -/
def IsPlain (c : Char) : Prop := c ≠ '"' ∧ c ≠ '\\' ∧ c ≠ '\n'

instance decidableIsRaw (c : Char) : Decidable (IsRaw c) := instDecidableAnd

instance decidableIsPlain (c : Char) : Decidable (IsPlain c) := instDecidableAnd

theorem isPlain_of_all {cs : List Char} (h : cs.all (fun c => decide (IsPlain c)) = true) :
    ∀ c ∈ cs, IsPlain c :=
  fun c hc => of_decide_eq_true (List.all_eq_true.mp h c hc)

theorem isRaw_of_all {cs : List Char} (h : cs.all (fun c => decide (IsRaw c)) = true) :
    ∀ c ∈ cs, IsRaw c :=
  fun c hc => of_decide_eq_true (List.all_eq_true.mp h c hc)

theorem step_raw_iff (c : Char) : language.step .raw c = some (bytes c, some .raw) ↔ IsRaw c := by
  show some (rawStep c) = _ ↔ _
  unfold rawStep IsRaw
  by_cases hquote : c = '\x60'
  · simp [hquote]
  · by_cases hreturn : c = '\r'
    · rw [if_neg hquote, if_pos hreturn]
      have hne : bytes c ≠ [] := List.ne_nil_of_length_pos (length_bytes_pos c)
      simp [hreturn, hreturn ▸ hne]
    · simp [hquote, hreturn]

theorem step_text_iff (c : Char) :
    language.step .text c = some (bytes c, some .text) ↔ IsPlain c := by
  show textStep c = _ ↔ _
  unfold textStep IsPlain
  by_cases hquote : c = '"'
  · simp [hquote]
  · by_cases hescape : c = '\\'
    · simp [hescape]
    · by_cases hend : c = '\n'
      · simp [hend]
      · simp [hquote, hescape, hend]

theorem read_quote (cs : List Char) :
    language.read none ('"' :: cs) = language.read (some (.text, [])) cs := rfl

theorem read_backquote (cs : List Char) :
    language.read none ('\x60' :: cs) = language.read (some (.raw, [])) cs := rfl

/-- An interpreted text is not read over the end of a line. -/
theorem read_line {between : List Char} (h : ∀ c ∈ between, IsPlain c) (value : List UInt8)
    (rest : List Char) : language.read (some (.text, value)) (between ++ '\n' :: rest) = none := by
  rw [Literals.read_plain (fun c hc => (step_text_iff c).mpr (h c hc))]
  rfl

/-- If nothing but plain characters stands between the quote and the end of its line, an interpreted
text that should be closed by the quote is not closed behind it. -/
theorem endsAt_quote {between : List Char} (h : ∀ c ∈ between, IsPlain c) (rest : List Char) :
    language.EndsAt (· ≠ .raw) pending '"' (between ++ '\n' :: rest) := by
  intro m value value' pieces hm hread
  have hfault (hstep : language.step m '"' = none) : value'.length ≤ value.length + pending m := by
    rw [Literals.read, hstep] at hread
    cases hread
  cases m with
  | raw => exact absurd rfl hm
  | text =>
      rw [Literals.read_close rfl] at hread
      obtain ⟨tail, -, htail⟩ := Option.map_eq_some_iff.mp hread
      cases htail
      exact Nat.le_refl _
  | escape =>
      have hescaped : language.read (some (.escape, value)) ('"' :: (between ++ '\n' :: rest)) =
          language.read (some (.text, value ++ [34])) (between ++ '\n' :: rest) := rfl
      rw [hescaped, read_line h] at hread
      cases hread
  | octal after value => exact hfault rfl
  | byte after value => exact hfault rfl
  | point after value => exact hfault rfl

/-- A raw text is closed by the first delimiter. -/
theorem endsAt_backquote (rest : List Char) :
    language.EndsAt (· = .raw) pending '\x60' rest := by
  intro m value value' pieces hm hread
  subst hm
  rw [Literals.read_close rfl] at hread
  obtain ⟨tail, -, htail⟩ := Option.map_eq_some_iff.mp hread
  cases htail
  exact Nat.le_refl _

/-- An address between quotes is read back exactly if it has only plain characters. -/
theorem read_address_iff {between : List Char} (h : ∀ c ∈ between, IsPlain c)
    (address rest : List Char) (pieces : List (Piece UInt8)) :
    language.read (some (.text, [])) (address ++ '"' :: (between ++ '\n' :: rest)) =
        some (.literal (address.flatMap bytes) :: pieces) ↔
      (∀ c ∈ address, IsPlain c) ∧ language.read none (between ++ '\n' :: rest) = some pieces := by
  rw [frugal_text.read_literal_iff rfl (endsAt_quote h rest)]
  simp only [step_text_iff]

/-- A body between back quotes is read back exactly if all its characters can stand there. -/
theorem read_body_iff (body rest : List Char) (pieces : List (Piece UInt8)) :
    language.read (some (.raw, [])) (body ++ '\x60' :: rest) =
        some (.literal (body.flatMap bytes) :: pieces) ↔
      (∀ c ∈ body, IsRaw c) ∧ language.read none rest = some pieces := by
  rw [frugal_raw.read_literal_iff rfl (endsAt_backquote rest)]
  simp only [step_raw_iff]

end Program

namespace CodeExample

open Program (language bytes IsPlain IsRaw)

-- ==================================================== the parts of a program

/-- The value of a text in a program. -/
def programText (text : String) : Piece UInt8 := .literal (text.toList.flatMap bytes)

/-- A text in double quotes, as it stands. -/
def inDoubleQuotes (text : String) : String := "\"" ++ text ++ "\""

/-- A text in back quotes, as it stands. -/
def inBackquotes (text : String) : String := "`" ++ text ++ "`"

/-- The packages that every program imports, and their pieces. -/
def writtenImports : String :=
  "package main\n\nimport (\n    " ++ inDoubleQuotes "fmt" ++ "\n    " ++ inDoubleQuotes "io" ++
    "\n    " ++ inDoubleQuotes "net/http"

def programImports : List (Piece UInt8) :=
  codeOf "package main\n\nimport (\n    " ++ [programText "fmt"] ++ codeOf "\n    " ++
    [programText "io"] ++ codeOf "\n    " ++ [programText "net/http"]

/-- What is written behind the imports. -/
def mainStart : String := "\n)\n\nfunc main() \x7b\n    "

/-- The body as a reader and the package it needs, and its pieces. -/
def writtenReader (body : String) : String :=
  "\n    " ++ inDoubleQuotes "strings" ++ mainStart ++ "body := strings.NewReader(" ++
    inBackquotes body ++ ")\n    "

def programReader (body : String) : List (Piece UInt8) :=
  codeOf "\n    " ++ [programText "strings"] ++ codeOf mainStart ++
    codeOf "body := strings.NewReader(" ++ [programText body] ++ codeOf ")\n    "

/-- What is written behind the reader. -/
def requestEnd : String := ")\n    if err != nil \x7b\n        panic(err)\n    \x7d\n    "

/-- The request with what it reads the body from, and its pieces. -/
def writtenRequest (method : HttpMethod) (url reader : String) : String :=
  "req, err := http.NewRequest(" ++ inDoubleQuotes method.name ++ ", " ++
    (inDoubleQuotes url ++ (", " ++ reader ++ requestEnd))

def programRequest (method : HttpMethod) (url reader : String) : List (Piece UInt8) :=
  codeOf "req, err := http.NewRequest(" ++ [programText method.name] ++ codeOf ", " ++
    (programText url :: (codeOf ", " ++ codeOf reader ++ codeOf requestEnd))

/-- The type of the body, and its pieces. -/
def writtenHeader : String :=
  "req.Header.Set(" ++ inDoubleQuotes "Content-Type" ++ ", " ++ inDoubleQuotes "application/json" ++
    ")\n    "

def programHeader : List (Piece UInt8) :=
  codeOf "req.Header.Set(" ++ [programText "Content-Type"] ++ codeOf ", " ++
    [programText "application/json"] ++ codeOf ")\n    "

/-- What becomes of the answer. -/
def programEnd : String :=
  "\n    client := &http.Client\x7b\x7d\n    resp, err := client.Do(req)\n" ++
    "    if err != nil \x7b\n        panic(err)\n    \x7d\n    defer resp.Body.Close()\n\n" ++
    "    bodyBytes, _ := io.ReadAll(resp.Body)\n    fmt.Println(string(bodyBytes))\n\x7d"

/-- The pieces that the program of a call is meant to have. -/
def programPieces (method : HttpMethod) (url body : String) : List (Piece UInt8) :=
  if Carries method body then
    programImports ++ programReader (Text.trim body) ++ programRequest method url "body" ++
      programHeader ++ codeOf programEnd
  else programImports ++ codeOf mainStart ++ programRequest method url "nil" ++ codeOf programEnd

/-- The program of a call in its parts. -/
theorem go_eq (method : HttpMethod) (url : String) (body : Option String) :
    go method url body =
      match body with
      | some b =>
        writtenImports ++ writtenReader b ++ writtenRequest method url "body" ++ writtenHeader ++
          programEnd
      | none => writtenImports ++ mainStart ++ writtenRequest method url "nil" ++ programEnd := by
  have himports :
      "package main\n\nimport (\n    \"fmt\"\n    \"io\"\n    \"net/http\"" = writtenImports := rfl
  have hstrings : "\n    \"strings\"" = "\n    " ++ inDoubleQuotes "strings" := rfl
  have hreader : "body := strings.NewReader(`" = "body := strings.NewReader(" ++ "`" := rfl
  have hrequest : "`)\n    req, err := http.NewRequest(" =
      "`" ++ (")\n    " ++ "req, err := http.NewRequest(") := rfl
  have hbetween : "\", \"" = "\"" ++ (", " ++ "\"") := rfl
  have hbehind : "\", " = "\"" ++ ", " := rfl
  have hheader : "req.Header.Set(\"Content-Type\", \"application/json\")\n    " = writtenHeader :=
    rfl
  have hbody : "body)" = "body" ++ ")" := rfl
  have hnil : "nil)" = "nil" ++ ")" := rfl
  have hend : requestEnd =
      ")" ++ "\n    if err != nil \x7b\n        panic(err)\n    \x7d\n    " := rfl
  unfold go writtenReader writtenRequest programEnd
  cases body with
  | none =>
      rw [himports, hbetween, hbehind, hnil, hend]
      simp only [inDoubleQuotes, mainStart, Option.isSome_none, Bool.false_eq_true, if_false,
        String.append_assoc, String.empty_append]
  | some b =>
      rw [himports, hstrings, hreader, hrequest, hbetween, hbehind, hheader, hbody, hend]
      simp only [inDoubleQuotes, inBackquotes, mainStart, Option.isSome_some, if_true,
        String.append_assoc]

-- ==================================================== programs that are read

theorem toList_inDoubleQuotes (text : String) :
    (inDoubleQuotes text).toList = '"' :: (text.toList ++ ['"']) := by
  simp [inDoubleQuotes]

theorem toList_inBackquotes (text : String) :
    (inBackquotes text).toList = '\x60' :: (text.toList ++ ['\x60']) := by
  simp [inBackquotes]

/-- A text without quotes, escapes and line ends is read as it stands. -/
theorem reads_inDoubleQuotes {text : String}
    (h : text.toList.all (fun c => decide (IsPlain c)) = true) :
    language.Reads True (inDoubleQuotes text) [programText text] :=
  Literals.reads_literal (toList_inDoubleQuotes text) rfl rfl
    fun c hc => (Program.step_text_iff c).mpr (Program.isPlain_of_all h c hc)

theorem reads_inBackquotes (text : String) :
    language.Reads (∀ c ∈ text.toList, IsRaw c) (inBackquotes text) [programText text] := by
  intro rest pieces
  rw [toList_inBackquotes, List.cons_append, List.append_assoc, Program.read_backquote,
    List.singleton_append, List.singleton_append, programText, Program.read_body_iff]

theorem reads_requestEnd : language.Reads True requestEnd (codeOf requestEnd) :=
  Literals.reads_code_ofList _ rfl

/-- The line of the address ends soon behind it. -/
theorem reads_lastArguments (url : String) {reader : String}
    (hplain : reader.toList.all (fun c => decide (IsPlain c)) = true)
    (hreader : language.Reads True reader (codeOf reader)) :
    language.Reads (∀ c ∈ url.toList, IsPlain c)
      (inDoubleQuotes url ++ (", " ++ reader ++ requestEnd))
      (programText url :: (codeOf ", " ++ codeOf reader ++ codeOf requestEnd)) := by
  have hline (rest : List Char) : ∃ lines, requestEnd.toList ++ rest = ')' :: '\n' :: lines := by
    unfold requestEnd
    rw [String.toList_ofList]
    exact ⟨_, rfl⟩
  have hcomma : language.Reads True ", " (codeOf ", ") :=
    Literals.reads_code_ofList _ rfl
  have hbehind : language.Reads True (", " ++ reader ++ requestEnd)
      (codeOf ", " ++ codeOf reader ++ codeOf requestEnd) :=
    ((hcomma.append hreader).append reads_requestEnd).congr (by simp only [and_self])
  intro rest pieces
  obtain ⟨lines, hlines⟩ := hline rest
  have hbetween : (", " ++ reader ++ requestEnd).toList ++ rest =
      (',' :: ' ' :: (reader.toList ++ [')'])) ++ '\n' :: lines := by
    rw [String.toList_append, List.append_assoc, hlines]
    simp
  have hbetweenPlain : ∀ c ∈ ',' :: ' ' :: (reader.toList ++ [')']), IsPlain c := by
    apply Program.isPlain_of_all
    rw [List.all_cons, List.all_cons, List.all_append, hplain]
    rfl
  rw [String.toList_append, toList_inDoubleQuotes, List.cons_append, List.append_assoc,
    List.cons_append, List.append_assoc, List.singleton_append, List.cons_append, List.cons_append,
    Program.read_quote, hbetween, programText, Program.read_address_iff hbetweenPlain, ← hbetween,
    hbehind, true_and]

theorem all_isPlain_name_program (method : HttpMethod) :
    method.name.toList.all (fun c => decide (IsPlain c)) = true := by
  cases method <;> rfl

theorem reads_writtenRequest (method : HttpMethod) (url : String) {reader : String}
    (hplain : reader.toList.all (fun c => decide (IsPlain c)) = true)
    (hreader : language.Reads True reader (codeOf reader)) :
    language.Reads (∀ c ∈ url.toList, IsPlain c) (writtenRequest method url reader)
      (programRequest method url reader) := by
  have hcall : language.Reads True "req, err := http.NewRequest("
      (codeOf "req, err := http.NewRequest(") :=
    Literals.reads_code_ofList _ rfl
  have hcomma : language.Reads True ", " (codeOf ", ") :=
    Literals.reads_code_ofList _ rfl
  have hrequest := ((hcall.append (reads_inDoubleQuotes (all_isPlain_name_program method))).append
    hcomma).append (reads_lastArguments url hplain hreader)
  exact hrequest.congr (by simp only [and_self, true_and])

theorem reads_mainStart : language.Reads True mainStart (codeOf mainStart) :=
  Literals.reads_code_ofList _ rfl

theorem reads_writtenImports : language.Reads True writtenImports programImports := by
  have hpackage : language.Reads True "package main\n\nimport (\n    "
      (codeOf "package main\n\nimport (\n    ") :=
    Literals.reads_code_ofList _ rfl
  have hline : language.Reads True "\n    " (codeOf "\n    ") :=
    Literals.reads_code_ofList _ rfl
  have hfmt : language.Reads True (inDoubleQuotes "fmt") [programText "fmt"] :=
    reads_inDoubleQuotes rfl
  have hio : language.Reads True (inDoubleQuotes "io") [programText "io"] :=
    reads_inDoubleQuotes rfl
  have hhttp : language.Reads True (inDoubleQuotes "net/http") [programText "net/http"] :=
    reads_inDoubleQuotes (by rw [String.toList_ofList]; rfl)
  have hall := ((((hpackage.append hfmt).append hline).append hio).append hline).append hhttp
  exact hall.congr (by simp only [and_self])

theorem reads_writtenReader (body : String) :
    language.Reads (∀ c ∈ body.toList, IsRaw c) (writtenReader body) (programReader body) := by
  have hline : language.Reads True "\n    " (codeOf "\n    ") :=
    Literals.reads_code_ofList _ rfl
  have hstrings : language.Reads True (inDoubleQuotes "strings") [programText "strings"] :=
    reads_inDoubleQuotes (by rw [String.toList_ofList]; rfl)
  have hreader : language.Reads True "body := strings.NewReader("
      (codeOf "body := strings.NewReader(") :=
    Literals.reads_code_ofList _ rfl
  have hclose : language.Reads True ")\n    " (codeOf ")\n    ") :=
    Literals.reads_code_ofList _ rfl
  have hall := ((((hline.append hstrings).append reads_mainStart).append hreader).append
    (reads_inBackquotes body)).append hclose
  exact hall.congr (by simp only [and_self, true_and, and_true])

theorem reads_writtenHeader : language.Reads True writtenHeader programHeader := by
  have hset : language.Reads True "req.Header.Set(" (codeOf "req.Header.Set(") :=
    Literals.reads_code_ofList _ rfl
  have htype : language.Reads True (inDoubleQuotes "Content-Type") [programText "Content-Type"] :=
    reads_inDoubleQuotes (by rw [String.toList_ofList]; rfl)
  have hcomma : language.Reads True ", " (codeOf ", ") :=
    Literals.reads_code_ofList _ rfl
  have hjson : language.Reads True (inDoubleQuotes "application/json")
      [programText "application/json"] :=
    reads_inDoubleQuotes (by rw [String.toList_ofList]; rfl)
  have hclose : language.Reads True ")\n    " (codeOf ")\n    ") :=
    Literals.reads_code_ofList _ rfl
  exact ((((hset.append htype).append hcomma).append hjson).append hclose).congr
    (by simp only [and_self])

theorem reads_programEnd : language.Reads True programEnd (codeOf programEnd) :=
  Literals.reads_code _ (by
    unfold programEnd
    rw [String.toList_append, String.toList_append, String.toList_ofList, String.toList_ofList,
      String.toList_ofList, List.all_append, List.all_append, Bool.and_eq_true, Bool.and_eq_true]
    exact ⟨⟨rfl, rfl⟩, rfl⟩)

/-- The program of a call is read as it is meant exactly if the address and the body have only
characters that stand for themselves in the texts of their kinds. -/
theorem read_go_iff (method : HttpMethod) (url body : String) :
    language.read none (generate .go method url body).toList =
        some (programPieces method url body) ↔
      (∀ c ∈ url.toList, IsPlain c) ∧
        (Carries method body → ∀ c ∈ (Text.trim body).toList, IsRaw c) := by
  show language.read none (go method url (body? method body)).toList = _ ↔ _
  rw [go_eq, body?_eq]
  unfold programPieces
  by_cases hbody : Carries method body
  · rw [if_pos hbody, if_pos hbody]
    dsimp only
    have hrequest := reads_writtenRequest method url rfl (Literals.reads_code "body" rfl)
    rw [((((reads_writtenImports.append (reads_writtenReader _)).append hrequest).append
      reads_writtenHeader).append reads_programEnd).read_iff]
    simp only [hbody, and_true, true_and, true_implies]
    exact and_comm
  · rw [if_neg hbody, if_neg hbody]
    dsimp only
    have hrequest := reads_writtenRequest method url rfl (Literals.reads_code "nil" rfl)
    rw [(((reads_writtenImports.append reads_mainStart).append hrequest).append
      reads_programEnd).read_iff]
    simp only [hbody, and_true, true_and, false_implies]

-- ==================================================== what is carried unchanged

/-- The texts of a script and of a program are well formed and stand for the address, the method and
the body, trimmed, and the body stands there exactly if the call carries one: in a script if the
address has no quote, no backslash and no line end, and the body is one line; in a program if the
address has no double quote, no backslash and no newline, and the body has no back quote and no
carriage return; and in no other case. -/
theorem scripts_and_programs_carry_plain_texts (method : HttpMethod) (url body : String) :
    (Script.language.read none (generate .javaScript method url body).toList =
        some (scriptPieces method url body) ↔
      (∀ c ∈ url.toList, Script.IsPlain c) ∧
        (Carries method body → ¬Script.HasLineEnd (Text.trim body).toList)) ∧
    (Program.language.read none (generate .go method url body).toList =
        some (programPieces method url body) ↔
      (∀ c ∈ url.toList, Program.IsPlain c) ∧
        (Carries method body → ∀ c ∈ (Text.trim body).toList, Program.IsRaw c)) :=
  ⟨read_javaScript_iff method url body, read_go_iff method url body⟩

/-- A body of two lines is carried by a program, and makes a script that is not well formed. -/
theorem bodies_of_two_lines_break_scripts :
    let url := "http://localhost:3000/fn/f"
    let body := "[1,\n2]"
    Carries .post body ∧
    Program.language.read none (generate .go .post url body).toList =
      some (programPieces .post url body) ∧
    Script.language.read none (generate .javaScript .post url body).toList ≠
      some (scriptPieces .post url body) := by
  intro url body
  have hbody : Text.trim body = body := by decide +kernel
  have hcarries : Carries .post body := ⟨rfl, by rw [hbody]; decide⟩
  refine ⟨hcarries, (read_go_iff .post url body).mpr ⟨?_, fun _ => ?_⟩, fun hread => ?_⟩
  · exact Program.isPlain_of_all (by decide +kernel)
  · rw [hbody]
    exact Program.isRaw_of_all (by decide +kernel)
  · have hline := ((read_javaScript_iff .post url body).mp hread).2 hcarries
    rw [hbody] at hline
    exact hline (.inl (by decide))

end CodeExample

end FunctionConsole
