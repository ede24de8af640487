import FunctionConsole.Json.Cursor

/-!
# Reading whole documents, and passing over them

`value` reads any document; at most 127 brackets may be open at once. `skip` passes over a document
that nobody asked for: it keeps a list of open brackets instead of nesting, so no depth is too
great for it, and it does not look at what the escapes of a string stand for.
-/

namespace FunctionConsole.Json.Reader

/-- What a document begins with. -/
inductive Opening where
  | null
  | true
  | false
  | minus
  | digit
  | quote
  | list
  | object
  deriving DecidableEq

/-- The kind of document that a character begins. -/
def opening? (c : Option Char) : Option Opening :=
  match c with
  | none => none
  | some c =>
    if c = 'n' then some .null
    else if c = 't' then some .true
    else if c = 'f' then some .false
    else if c = '-' then some .minus
    else if c.isDigit then some .digit
    else if c = '"' then some .quote
    else if c = '[' then some .list
    else if c = '\x7b' then some .object
    else none

/-- The word `null`, its first letter being next. -/
def nullWord : Reader Unit := eat.andThen fun _ => word ['u', 'l', 'l']

/-- The word `true`, its first letter being next. -/
def trueWord : Reader Unit := eat.andThen fun _ => word ['r', 'u', 'e']

/-- The word `false`, its first letter being next. -/
def falseWord : Reader Unit := eat.andThen fun _ => word ['a', 'l', 's', 'e']

/-- Passes blanks; a text that ends there lacks a value. -/
def beforeValue : Reader Unit := fun c0 =>
  let c := c0.skipBlanks
  if c.atEnd then .error ⟨.endInValue, c.place⟩ else .ok ((), c)

/-- How many brackets may be open at once, and one more. -/
def depthLimit : Nat := 128

/-- A document, with room for `depth - 1` open brackets. Equal keys of an object keep the last
value, and keys are put in ascending order. -/
def valueWithin : Nat → Reader Json
  | 0 => stopAtNext .tooDeep
  | depth + 1 => beforeValue.andThen fun _ => fun c =>
    match opening? c.peek with
    | some .null => (nullWord.map fun _ => Json.null) c
    | some .true => (trueWord.map fun _ => Json.bool true) c
    | some .false => (falseWord.map fun _ => Json.bool false) c
    | some .minus => (signedNumber.map Json.number) c
    | some .digit => (signedNumber.map Json.number) c
    | some .quote => (string.map Json.string) c
    | some .list =>
      if depth = 0 then stopAtNext .tooDeep c else ((list (valueWithin depth)).map Json.array) c
    | some .object =>
      if depth = 0 then stopAtNext .tooDeep c
      else object ([] : List (String × Json))
        (fun key fields => colon.andThen fun _ =>
          (valueWithin depth).map fun v => putField key v fields)
        (fun fields => give (Json.object fields)) c
    | none => stopAtNext .valueExpected c

/-- A document. -/
def value : Reader Json := valueWithin depthLimit

-- ==================================================== passing over

/-- Passes over a number: its digits, point and exponent only have to be well placed. -/
def skipNumber : Reader Unit := fun c0 =>
  let c0 := if c0.peek == some '-' then c0.advance else c0
  let whole : Except Fault Cursor :=
    match digit? c0 with
    | none => .error ⟨.badNumber, c0.nextPlace⟩
    | some 0 =>
      let c1 := c0.advance
      if (digit? c1).isSome then .error ⟨.badNumber, c1.nextPlace⟩ else .ok c1
    | some _ => .ok (skipDigits c0)
  let exponent (c1 : Cursor) : Except Fault Cursor :=
    if c1.peek == some 'e' || c1.peek == some 'E' then
      let c2 := c1.advance
      let c3 := if c2.peek == some '+' || c2.peek == some '-' then c2.advance else c2
      if (digit? c3).isSome then .ok (skipDigits c3) else .error ⟨.badNumber, c3.nextPlace⟩
    else .ok c1
  let decimal (c1 : Cursor) : Except Fault Cursor :=
    if c1.peek == some '.' then
      let c2 := c1.advance
      if (digit? c2).isSome then exponent (skipDigits c2) else .error ⟨.badNumber, c2.nextPlace⟩
    else exponent c1
  match whole with
  | .error e => .error e
  | .ok c1 => (decimal c1).map fun c2 => ((), c2)

/-- Passes over the symbols of a string and its closing quote. -/
def skipStringBody : Nat → Reader Unit
  | 0 => stopHere .endInString
  | n + 1 => fun c =>
    match c.rest with
    | [] => .error ⟨.endInString, c.place⟩
    | none :: _ => skipStringBody n c.advance
    | some ch :: _ =>
      let c1 := c.advance
      if ch = '"' then .ok ((), c1)
      else if ch = '\\' then
        match c1.rest with
        | [] => .error ⟨.endInString, c1.place⟩
        | some 'u' :: _ => (hexEscape.andThen fun _ => skipStringBody n) c1.advance
        | some e :: _ =>
          if (letterEscape? e).isSome then skipStringBody n c1.advance
          else .error ⟨.badEscape, c1.nextPlace⟩
        | none :: _ => .error ⟨.badEscape, c1.nextPlace⟩
      else if ch.toNat < 0x20 then .error ⟨.controlCharacter, c.place⟩
      else skipStringBody n c1

/-- Passes over a string, its opening quote being next. -/
def skipString : Reader Unit := fun c =>
  let c1 := c.advance
  skipStringBody (c1.rest.length + 1) c1

/-- The two kinds of open bracket. -/
inductive Bracket where
  | list
  | object
  deriving DecidableEq

/-- Passes over a key, its colon included. -/
def skipKey : Reader Unit := fun c0 =>
  let c := c0.skipBlanks
  if c.atEnd then .error ⟨.endInObject, c.place⟩
  else if c.peek == some '"' then (skipString.andThen fun _ => colon) c
  else .error ⟨.keyNotString, c.nextPlace⟩

/-- After a document inside the open brackets (`comma` holds) or after an opening bracket: closes
brackets as far as the text does, and says which are open where the next item starts. -/
def skipClosing : Nat → Bool → List Bracket → Reader (List Bracket)
  | _, _, [] => give []
  | 0, _, _ => stopHere .endInValue
  | n + 1, comma, b :: outer => fun c0 =>
    let c := c0.skipBlanks
    let close := match b with | .list => ']' | .object => '\x7d'
    if c.atEnd then
      .error ⟨match b with | .list => .endInList | .object => .endInObject, c.place⟩
    else if comma && c.peek == some ',' then .ok (b :: outer, c.advance)
    else if c.peek == some close then skipClosing n true outer c.advance
    else if comma then
      .error ⟨match b with | .list => .listCommaOrEndExpected
                           | .object => .objectCommaOrEndExpected, c.nextPlace⟩
    else .ok (b :: outer, c)

/-- Passes over one document and whatever completes the brackets that are open around it. -/
def skipWithin : Nat → List Bracket → Reader Unit
  | 0, _ => stopHere .endInValue
  | n + 1, outer => beforeValue.andThen fun _ => fun c =>
    let goOn (comma : Bool) (brackets : List Bracket) : Reader Unit := fun c' =>
      (skipClosing (c'.rest.length + 1) comma brackets).andThen (fun left =>
        match left with
        | [] => give ()
        | .list :: _ => skipWithin n left
        | .object :: _ => skipKey.andThen fun _ => skipWithin n left) c'
    match opening? c.peek with
    | some .null => (nullWord.andThen fun _ => goOn true outer) c
    | some .true => (trueWord.andThen fun _ => goOn true outer) c
    | some .false => (falseWord.andThen fun _ => goOn true outer) c
    | some .minus => (skipNumber.andThen fun _ => goOn true outer) c
    | some .digit => (skipNumber.andThen fun _ => goOn true outer) c
    | some .quote => (skipString.andThen fun _ => goOn true outer) c
    | some .list => goOn false (.list :: outer) c.advance
    | some .object => goOn false (.object :: outer) c.advance
    | none => stopAtNext .valueExpected c

/-- Passes over one document. -/
def skip : Reader Unit := fun c => skipWithin (c.rest.length + 1) [] c

-- ==================================================== whole texts

/-- Runs a reader on a whole text: only blanks may follow what it reads. -/
def run {α : Type} (r : Reader α) (text : List Symbol) : Except Fault α :=
  match r (Cursor.ofSymbols text) with
  | .error e => .error e
  | .ok (a, c) =>
    let c := c.skipBlanks
    if c.atEnd then .ok a else .error ⟨.trailingCharacters, c.nextPlace⟩

/-- What was found where a value of another kind was expected; a number, a word or a string is read
to its end, and its own faults come first. -/
def found : Reader Found := fun c =>
  match opening? c.peek with
  | some .null => (nullWord.map fun _ => Found.null) c
  | some .true => (trueWord.map fun _ => Found.boolean true) c
  | some .false => (falseWord.map fun _ => Found.boolean false) c
  | some .minus | some .digit =>
    (signedNumber.map fun n => match n with | .whole n => Found.integer n | .float b => Found.float b) c
  | some .quote => (string.map Found.text) c
  | some .list => .ok (.sequence, c)
  | some .object => .ok (.map, c)
  | none => .error ⟨.valueExpected, c.nextPlace⟩

/-- Refuses what is next because a value of another kind was expected. -/
def refuse {α : Type} (expected : String) : Reader α :=
  found.andThen fun f => stopHere (.wrongType f expected)

end FunctionConsole.Json.Reader

namespace FunctionConsole.Json

/-- The document of a text. -/
def parse (s : String) : Except Fault Json := Reader.run Reader.value (s.toList.map some)

end FunctionConsole.Json
