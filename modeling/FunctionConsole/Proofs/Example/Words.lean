import FunctionConsole.CodeExample

/-!
# The words of a command

A shell takes a command apart into words, and quotes keep a text together. The command of an example
is meant to be one command whose words are the method, the address and the body as they are. The
body is: it is quoted so that a shell reads it back, whatever is in it (`run_shellQuoted`). The
address is put between single quotes as it stands, so that a quote of its own ends it:
`commands_carry_unquoted_addresses` says that the addresses without a single quote are exactly those
that are carried.

That an address with a quote is never read back is a matter of counting: each character adds at most
one to what is read, and the quotes that are taken away are missing in the end.
-/

namespace FunctionConsole

-- ==================================================== the body of an example

/-- A call carries a body, and there is something in it besides blanks. -/
def CodeExample.Carries (method : HttpMethod) (body : String) : Prop :=
  method.hasBody = true ∧ Text.trim body ≠ ""

instance CodeExample.decidableCarries (method : HttpMethod) (body : String) :
    Decidable (CodeExample.Carries method body) := instDecidableAnd

/-- The body is shown trimmed, if the call carries it. -/
theorem CodeExample.body?_eq (method : HttpMethod) (body : String) :
    CodeExample.body? method body =
      if CodeExample.Carries method body then some (Text.trim body) else none := by
  unfold CodeExample.body?
  by_cases hbody : method.hasBody = true
  · rw [if_pos hbody, Text.nonBlank?, Text.isAllBlank_trim]
    by_cases hblank : Text.isAllBlank body = true
    · rw [if_pos hblank, if_neg fun h => h.2 (Text.trim_eq_empty_iff.mpr hblank)]
    · rw [if_neg hblank, if_pos ⟨hbody, fun h => hblank (Text.trim_eq_empty_iff.mp h)⟩]
  · rw [if_neg hbody, if_neg fun h => hbody h.1]

namespace Shell

-- ==================================================== reading a command

/-- How the next character of a command is read: outside of quotes, behind a backslash there,
between single quotes, between double quotes, or behind a backslash between these. -/
inductive Quoting where
  | bare
  | escaped
  | single
  | double
  | doubleEscaped
  deriving DecidableEq, Repr

/-- The words that are complete, and the one that is being read, if any has begun. -/
structure Reader where
  quoting : Quoting := .bare
  words : List (List Char) := []
  word : Option (List Char) := none
  deriving DecidableEq, Repr

/-- Outside of quotes these end the command, join it with another, or stand for something else, or
may do so. -/
def isSpecial (c : Char) : Bool :=
  ['|', '&', ';', '<', '>', '(', ')', '$', '\x60', '\n', '*', '?', '[', '#', '~', '=', '%'].contains c

/-- Between double quotes these are escaped by a backslash; before any other it stands for
itself. -/
def isEscapable (c : Char) : Bool := ['$', '\x60', '"', '\\'].contains c

namespace Reader

/-- A word has begun, though it may have no character yet. -/
def begun (r : Reader) (quoting : Quoting) : Reader :=
  { r with quoting, word := some (r.word.getD []) }

/-- One more character of the word. -/
def put (r : Reader) (c : Char) : Reader := { r with word := some (r.word.getD [] ++ [c]) }

/-- The word is complete. -/
def ended (r : Reader) : Reader := { r with words := r.words ++ r.word.toList, word := none }

/-- Reads one character. None if from there on it is not just words. -/
def next? (r : Reader) (c : Char) : Option Reader :=
  match r.quoting with
  | .bare =>
    if c = '\\' then some { r with quoting := .escaped }
    else if c = '\'' then some (r.begun .single)
    else if c = '"' then some (r.begun .double)
    else if c = ' ' ∨ c = '\t' then some r.ended
    else if isSpecial c then none
    else some (r.put c)
  | .escaped =>
    let r := { r with quoting := .bare }
    -- a line goes on behind a backslash at its end
    some (if c = '\n' then r else r.put c)
  | .single => some (if c = '\'' then { r with quoting := .bare } else r.put c)
  | .double =>
    if c = '"' then some { r with quoting := .bare }
    else if c = '\\' then some { r with quoting := .doubleEscaped }
    else if c = '$' ∨ c = '\x60' then none
    else some (r.put c)
  | .doubleEscaped =>
    let r := { r with quoting := .double }
    some (if c = '\n' then r else if isEscapable c then r.put c else (r.put '\\').put c)

/-- The words of a command that has been read; all quotes have to be closed. -/
def words? (r : Reader) : Option (List String) :=
  if r.quoting = .bare then some ((r.words ++ r.word.toList).map String.ofList) else none

end Reader

/-- Reads some characters. -/
def run (r : Reader) (cs : List Char) : Option Reader := cs.foldlM Reader.next? r

/-- The words of a command. None if it is not one command of words that stand for themselves. -/
def words? (command : String) : Option (List String) :=
  (run {} command.toList).bind Reader.words?

-- ==================================================== quoted texts

section

variable {r r' : Reader} {c : Char} {cs : List Char}

theorem run_append (r : Reader) (cs ds : List Char) :
    run r (cs ++ ds) = (run r cs).bind fun r' => run r' ds := by
  unfold run
  rw [List.foldlM_append]
  rfl

theorem run_cons (r : Reader) (c : Char) (cs : List Char) :
    run r (c :: cs) = (r.next? c).bind fun r' => run r' cs := rfl

/-- Between single quotes every other character stands for itself. -/
theorem run_single (words : List (List Char)) (word : List Char) (h : '\'' ∉ cs) :
    run ⟨.single, words, some word⟩ cs = some ⟨.single, words, some (word ++ cs)⟩ := by
  induction cs generalizing word with
  | nil => rw [List.append_nil]; rfl
  | cons c cs ih =>
      rw [List.mem_cons, not_or] at h
      have hnext : Reader.next? ⟨.single, words, some word⟩ c =
          some ⟨.single, words, some (word ++ [c])⟩ := by
        simp [Reader.next?, Ne.symm h.1, Reader.put]
      rw [run_cons, hnext, Option.bind_some, ih _ h.2, List.append_assoc]
      rfl

/-- A quoted text is read back, whatever is in it. -/
theorem run_shellQuoted (words : List (List Char)) (word cs : List Char) :
    run ⟨.single, words, some word⟩ (CodeExample.shellQuoted cs) =
      some ⟨.single, words, some (word ++ cs)⟩ := by
  induction cs generalizing word with
  | nil => rw [List.append_nil]; rfl
  | cons c cs ih =>
      have hfirst : run ⟨.single, words, some word⟩ (CodeExample.shellQuoted [c]) =
          some ⟨.single, words, some (word ++ [c])⟩ := by
        by_cases hc : c = '\''
        · -- the quotes are closed, and opened again behind the quote
          subst hc
          rfl
        · simp [CodeExample.shellQuoted, run, Reader.next?, hc, Reader.put]
      have hcons : CodeExample.shellQuoted (c :: cs) =
          CodeExample.shellQuoted [c] ++ CodeExample.shellQuoted cs := by
        simp [CodeExample.shellQuoted]
      rw [hcons, run_append, hfirst, Option.bind_some, ih, List.append_assoc]
      rfl

-- ==================================================== what is read of so many characters

/-- What quotes and backslashes have taken that are not closed or used yet. -/
def Quoting.weight : Quoting → Nat
  | .bare => 0
  | .escaped | .single | .double => 1
  | .doubleEscaped => 2

/-- The characters that have been read, with those of open quotes. -/
def Reader.size (r : Reader) : Nat :=
  r.words.flatten.length + (r.word.getD []).length + r.quoting.weight

section

variable (quoting : Quoting) (words : List (List Char)) (word : Option (List Char))

theorem Reader.size_put (c : Char) :
    (Reader.put ⟨quoting, words, word⟩ c).size = (Reader.mk quoting words word).size + 1 := by
  simp only [put, size, Option.getD_some, List.length_append, List.length_singleton]
  omega

theorem Reader.size_ended :
    (Reader.ended ⟨quoting, words, word⟩).size = (Reader.mk quoting words word).size := by
  unfold ended size
  cases word <;> simp

end

/-- A character adds at most one to what has been read. -/
theorem Reader.size_next? (h : r.next? c = some r') : r'.size ≤ r.size + 1 := by
  obtain ⟨quoting, words, word⟩ := r
  cases quoting with
  | bare =>
      simp only [next?] at h
      split at h
      · cases h
        exact Nat.le_refl _
      · split at h
        · cases h
          exact Nat.le_refl _
        · split at h
          · cases h
            exact Nat.le_refl _
          · split at h
            · cases h
              rw [size_ended]
              exact Nat.le_succ _
            · split at h
              · cases h
              · cases h
                exact Nat.le_of_eq (size_put .bare words word c)
  | escaped =>
      cases h
      split
      · exact Nat.le_add_right _ 2
      · rw [size_put]
        exact Nat.le_succ _
  | single =>
      cases h
      split
      · exact Nat.le_add_right _ 2
      · exact Nat.le_of_eq (size_put .single words word c)
  | double =>
      simp only [next?] at h
      split at h
      · cases h
        exact Nat.le_add_right _ 2
      · split at h
        · cases h
          exact Nat.le_refl _
        · split at h
          · cases h
          · cases h
            exact Nat.le_of_eq (size_put .double words word c)
  | doubleEscaped =>
      cases h
      dsimp only
      split
      · exact Nat.le_add_right _ 2
      · split
        · rw [size_put]
          exact Nat.le_succ _
        · -- the backslash stands for itself
          have hboth : (Reader.put (Reader.put ⟨.double, words, word⟩ '\\') c).size =
              (Reader.mk .double words word).size + 2 := by
            show (Reader.put ⟨.double, words, some (word.getD [] ++ ['\\'])⟩ c).size = _
            rw [size_put]
            exact congrArg (· + 1) (size_put .double words word '\\')
          exact Nat.le_of_eq hboth

/-- A single quote at the end, where no quotes are left open, adds nothing. -/
theorem Reader.size_next?_quote (h : r.next? '\'' = some r') (hbare : r'.quoting = .bare) :
    r'.size ≤ r.size := by
  obtain ⟨quoting, words, word⟩ := r
  cases quoting with
  | bare =>
      cases h
      cases hbare
  | escaped =>
      cases h
      exact Nat.le_of_eq (size_put .bare words word '\'')
  | single =>
      cases h
      exact Nat.le_succ _
  | double =>
      cases h
      cases hbare
  | doubleEscaped =>
      cases h
      cases hbare

/-- So do many. -/
theorem Reader.size_run (h : run r cs = some r') : r'.size ≤ r.size + cs.length := by
  induction cs generalizing r with
  | nil =>
      cases h
      exact Nat.le_refl _
  | cons c cs ih =>
      obtain ⟨between, hnext, hrest⟩ := Option.bind_eq_some_iff.mp h
      have hfirst := size_next? hnext
      have hothers := ih hrest
      rw [List.length_cons]
      omega

/-- Of an address between quotes, with a quote of its own, not all characters are read. -/
theorem not_mem_quote_of_run {words : List (List Char)} {address : List Char}
    (h : run ⟨.single, words, some []⟩ (address ++ ['\'']) = some r) (hbare : r.quoting = .bare)
    (hsize : words.flatten.length + address.length ≤ r.size) : '\'' ∉ address := by
  intro hmem
  obtain ⟨before, behind, haddress, hfirst⟩ := List.eq_append_cons_of_mem hmem
  subst haddress
  -- the quote of the address closes those before it
  have hclosed : run ⟨.single, words, some []⟩ (before ++ ['\'']) =
      some ⟨.bare, words, some before⟩ := by
    rw [run_append, run_single words [] hfirst]
    rfl
  have hrest : run ⟨.bare, words, some before⟩ (behind ++ ['\'']) = some r := by
    rw [List.append_assoc, List.cons_append, ← List.singleton_append, ← List.append_assoc,
      run_append, hclosed] at h
    exact h
  rw [run_append] at hrest
  obtain ⟨last, hbehind, hquote⟩ := Option.bind_eq_some_iff.mp hrest
  obtain ⟨end', hnext, hend⟩ := Option.bind_eq_some_iff.mp hquote
  cases hend
  have hall := Reader.size_run hbehind
  have hlast := Reader.size_next?_quote hnext hbare
  have hstart : (Reader.mk .bare words (some before)).size =
      words.flatten.length + before.length := rfl
  rw [List.length_append, List.length_cons] at hsize
  omega

end

end Shell

namespace CodeExample

open Shell (Quoting Reader words? run run_append run_cons run_single run_shellQuoted)

-- ==================================================== commands

/-- The words that the command of a call is meant to have. -/
def commandWords (method : HttpMethod) (url body : String) : List String :=
  ["curl", "-X", method.name, url] ++
    if Carries method body then
      ["-H", "Content-Type: application/json", "-d", Text.trim body]
    else []

/-- The words that are read before the address. -/
def wordsBefore (method : HttpMethod) : List (List Char) :=
  ["curl".toList, "-X".toList, method.name.toList]

theorem run_before (method : HttpMethod) :
    run {} ("curl -X " ++ method.name ++ " '").toList =
      some ⟨.single, wordsBefore method, some []⟩ := by
  cases method <;> rfl

/-- What stands between the address and the body is read as three words. -/
theorem run_between (a b c address : List Char) :
    run ⟨.bare, [a, b, c], some address⟩
        " \\\n  -H 'Content-Type: application/json' \\\n  -d '".toList =
      some ⟨.single, [a, b, c, address, "-H".toList, "Content-Type: application/json".toList,
        "-d".toList], some []⟩ := by
  have hsign : run ⟨.bare, [a, b, c], some address⟩ " \\\n  -H '".toList =
      some ⟨.single, [a, b, c, address, "-H".toList], some []⟩ := rfl
  have htype : run ⟨.single, [a, b, c, address, "-H".toList], some []⟩
      "Content-Type: application/json".toList =
      some ⟨.single, [a, b, c, address, "-H".toList], some "Content-Type: application/json".toList⟩ :=
    run_single _ [] (by decide)
  have hbody (content : List Char) : run ⟨.single, [a, b, c, address, "-H".toList], some content⟩
      "' \\\n  -d '".toList =
      some ⟨.single, [a, b, c, address, "-H".toList, content, "-d".toList], some []⟩ := rfl
  have hparts : " \\\n  -H 'Content-Type: application/json' \\\n  -d '".toList =
      " \\\n  -H '".toList ++
        ("Content-Type: application/json".toList ++ "' \\\n  -d '".toList) := by
    rw [String.toList_ofList, String.toList_ofList, String.toList_ofList, String.toList_ofList]
    rfl
  rw [hparts, run_append, hsign, Option.bind_some, run_append, htype, Option.bind_some, hbody]

/-- The command of a call: what stands before the address, the address, and the body, if there is
one. -/
theorem toList_curl (method : HttpMethod) (url : String) (body : Option String) :
    (curl method url body).toList =
      ("curl -X " ++ method.name ++ " '").toList ++ (url.toList ++ ['\''] ++
        match body with
        | some b => " \\\n  -H 'Content-Type: application/json' \\\n  -d '".toList ++
            (shellQuoted b.toList ++ ['\''])
        | none => []) := by
  unfold curl
  cases body <;> simp [String.toList_append]

/-- An address without a single quote is carried, and so is the body. -/
theorem words?_curl {method : HttpMethod} {url : String} (h : '\'' ∉ url.toList)
    (body : Option String) :
    words? (curl method url body) = some (["curl", "-X", method.name, url] ++
      match body with
      | some b => ["-H", "Content-Type: application/json", "-d", b]
      | none => []) := by
  have haddress : run ⟨.single, wordsBefore method, some []⟩ (url.toList ++ ['\'']) =
      some ⟨.bare, wordsBefore method, some url.toList⟩ := by
    rw [run_append, run_single _ [] h]
    rfl
  rw [words?, toList_curl, run_append, run_before, Option.bind_some, run_append, haddress,
    Option.bind_some]
  cases body with
  | none => simp [run, Reader.words?, wordsBefore]
  | some b =>
      have hbetween := run_between "curl".toList "-X".toList method.name.toList url.toList
      have hquoted (words : List (List Char)) :
          run ⟨.single, words, some []⟩ (shellQuoted b.toList ++ ['\'']) =
            some ⟨.bare, words, some b.toList⟩ := by
        rw [run_append, run_shellQuoted]
        rfl
      rw [run_append, wordsBefore, hbetween, Option.bind_some, hquoted, Option.bind_some,
        Reader.words?, if_pos rfl]
      simp only [Option.toList_some, List.cons_append, List.nil_append, List.map_cons, List.map_nil,
        String.ofList_toList]

/-- A command without a body is read as meant only if its address has no single quote. -/
theorem not_mem_quote_of_words? (method : HttpMethod) {url : String}
    (h : words? (curl method url none) = some ["curl", "-X", method.name, url]) :
    '\'' ∉ url.toList := by
  rw [words?, toList_curl, run_append, run_before, Option.bind_some, List.append_nil] at h
  obtain ⟨r, hrun, hwords⟩ := Option.bind_eq_some_iff.mp h
  rw [Reader.words?] at hwords
  split at hwords
  · next hbare =>
    have hall : r.words ++ r.word.toList = wordsBefore method ++ [url.toList] := by
      refine List.map_inj_right (fun _ _ => String.ofList_inj.mp) |>.mp ?_
      rw [Option.some.inj hwords]
      simp only [wordsBefore, List.cons_append, List.nil_append, List.map_cons, List.map_nil,
        String.ofList_toList]
    have hlength : (r.words ++ r.word.toList).flatten.length =
        (wordsBefore method).flatten.length + url.toList.length := by
      rw [hall, List.flatten_append, List.length_append, List.flatten_singleton]
    refine Shell.not_mem_quote_of_run hrun hbare ?_
    rw [← hlength, Reader.size, hbare]
    cases r.word <;> simp [Quoting.weight]
  · cases hwords

/-- A command is one command, and its words are the method, the address and the body, trimmed, each
as it is. This holds of all calls with an address exactly if the address has no single quote; and of
a call that carries no body it holds exactly then. -/
theorem commands_carry_unquoted_addresses (method : HttpMethod) (url : String) :
    ((∀ body, words? (generate .curl method url body) = some (commandWords method url body)) ↔
      '\'' ∉ url.toList) ∧
    ∀ body, ¬ Carries method body →
      (words? (generate .curl method url body) = some (commandWords method url body) ↔
        '\'' ∉ url.toList) := by
  have hcarried (h : '\'' ∉ url.toList) (body : String) :
      words? (generate .curl method url body) = some (commandWords method url body) := by
    show words? (curl method url (body? method body)) = _
    rw [words?_curl h, body?_eq, commandWords]
    by_cases hbody : Carries method body
    · rw [if_pos hbody, if_pos hbody]
    · rw [if_neg hbody, if_neg hbody]
  have hunquoted {body : String} (hbody : ¬ Carries method body)
      (h : words? (generate .curl method url body) = some (commandWords method url body)) :
      '\'' ∉ url.toList := by
    refine not_mem_quote_of_words? method ?_
    rw [commandWords, if_neg hbody, List.append_nil] at h
    rw [← h]
    show _ = words? (curl method url (body? method body))
    rw [body?_eq, if_neg hbody]
  have hempty : ¬ Carries method "" := fun hbody => hbody.2 (Text.trim_eq_empty_iff.mpr (by decide))
  refine ⟨⟨fun h => hunquoted hempty (h ""), hcarried⟩, fun body hbody => ?_⟩
  exact ⟨hunquoted hbody, fun h => hcarried h body⟩

/-- Spaces, dollars and double quotes of an address are carried, and quotes and line breaks of a
body. -/
theorem quotes_of_body_are_carried :
    let url := "http://localhost:3000/fn/f?q=$HOME \"a b\""
    let body := "\n\x7b\"n\":\n\"it's\"\x7d"
    '\'' ∉ url.toList ∧ words? (generate .curl .post url body) =
      some ["curl", "-X", "POST", url, "-H", "Content-Type: application/json", "-d",
        "\x7b\"n\":\n\"it's\"\x7d"] := by
  intro url body
  have hurl : '\'' ∉ url.toList := by decide
  have hbody : Text.trim body = "\x7b\"n\":\n\"it's\"\x7d" := by decide +kernel
  refine ⟨hurl, ?_⟩
  rw [(commands_carry_unquoted_addresses .post url).1.mpr hurl body, commandWords,
    if_pos ⟨rfl, by rw [hbody]; decide⟩, hbody]
  rfl

/-- The quotes of an address are taken away, and the command calls another address. -/
theorem quotes_of_address_are_lost :
    words? (generate .curl .get "http://localhost:3000/fn/f?name='x'" "") =
      some ["curl", "-X", "GET", "http://localhost:3000/fn/f?name=x"] ∧
    commandWords .get "http://localhost:3000/fn/f?name='x'" "" =
      ["curl", "-X", "GET", "http://localhost:3000/fn/f?name='x'"] := by
  decide +kernel

end CodeExample

end FunctionConsole
