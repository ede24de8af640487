import FunctionConsole.Json.Reader
import FunctionConsole.Json.Writer

/-!
# Formats: a value as a document, and back

A format says how a type stands in documents: the document written for a value (`encode`), how a
value is read from a text (`read`), and how it is read from a document (`ofJson`), which gives the
same values and the same causes but has no places to report. Formats are combined from the ones
for strings, truth values, whole numbers, optional values, lists, string maps, enumerations and
records.

A record is read from an object with its fields in any order, or from a list with its fields in the
order of their declaration. Unknown fields are passed over, a field given twice is refused, and a
missing field is its default or is refused.
-/

namespace FunctionConsole.Json

/-- How the values of a type are written as documents and read back. -/
structure Format (α : Type) where
  encode : α → Json
  read : Reader α
  ofJson : Json → Except Cause α

/-- What a document is, in the words of a refusal. -/
def found : Json → Found
  | .null => .null
  | .bool b => .boolean b
  | .number (.whole n) => .integer n
  | .number (.float b) => .float b
  | .string s => .text s
  | .array _ => .sequence
  | .object _ => .map

/-- Refuses a document because a value of another kind was expected. -/
def refuse {α : Type} (v : Json) (expected : String) : Except Cause α :=
  .error (.wrongType (found v) expected)

namespace Format

open Reader

-- ==================================================== single values

/-- Strings. -/
def string : Format String where
  encode := .string
  read := beforeValue.andThen fun _ => fun c =>
    if c.peek == some '"' then Reader.string c else Reader.refuse "a string" c
  ofJson
    | .string s => .ok s
    | v => Json.refuse v "a string"

/-- Truth values. -/
def bool : Format Bool where
  encode := .bool
  read := beforeValue.andThen fun _ => fun c =>
    match opening? c.peek with
    | some .true => (trueWord.map fun _ => Bool.true) c
    | some .false => (falseWord.map fun _ => Bool.false) c
    | _ => Reader.refuse "a boolean" c
  ofJson
    | .bool b => .ok b
    | v => Json.refuse v "a boolean"

/-- Takes a number for a whole number between two bounds. -/
def whole? (lo hi : Int) (expected : String) : Number → Except Cause Int
  | .whole n => if lo ≤ n && n ≤ hi then .ok n else .error (.wrongValue (.integer n) expected)
  | .float b => .error (.wrongType (.float b) expected)

/-- Whole numbers between two bounds, as values of a type. -/
def bounded {α : Type} (lo hi : Int) (expected : String) (toInt : α → Int) (ofInt : Int → α) :
    Format α where
  encode a := .number (.whole (toInt a))
  read := beforeValue.andThen fun _ => fun c =>
    if c.peek == some '-' || (digit? c).isSome then
      (signedNumber.andThen fun n =>
        match whole? lo hi expected n with
        | .ok n => give (ofInt n)
        | .error cause => stopHere cause) c
    else Reader.refuse expected c
  ofJson
    | .number n => (whole? lo hi expected n).map ofInt
    | v => Json.refuse v expected

/-- Unsigned words of 32 bits. -/
def u32 : Format UInt32 :=
  bounded 0 UInt32.size.pred "u32" (fun n => (n.toNat : Int)) (fun i => UInt32.ofNat i.toNat)

/-- Unsigned words of 64 bits. -/
def u64 : Format UInt64 :=
  bounded 0 UInt64.size.pred "u64" (fun n => (n.toNat : Int)) (fun i => UInt64.ofNat i.toNat)

/-- Signed words of 64 bits. -/
def i64 : Format Int64 :=
  bounded Int64.minValue.toInt Int64.maxValue.toInt "i64" Int64.toInt Int64.ofInt

/-- Values that may be `null`. -/
def option {α : Type} (f : Format α) : Format (Option α) where
  encode := Json.optional f.encode
  read := fun c0 =>
    let c := c0.skipBlanks
    if c.peek == some 'n' then (nullWord.map fun _ => none) c else (f.read.map some) c
  ofJson
    | .null => .ok none
    | v => (f.ofJson v).map some

/-- Values for which `null` stands for a default; the default is written out. -/
def orNull {α : Type} (dflt : α) (f : Format α) : Format α where
  encode := f.encode
  read := f.option.read.map fun a => a.getD dflt
  ofJson v := (f.option.ofJson v).map fun a => a.getD dflt

-- ==================================================== lists and maps

/-- The items of an array, one after another. -/
def itemsOfJson {α : Type} (f : Json → Except Cause α) : List Json → Except Cause (List α)
  | [] => .ok []
  | v :: rest =>
    match f v with
    | .error e => .error e
    | .ok a => (itemsOfJson f rest).map (a :: ·)

/-- Lists. -/
def list {α : Type} (f : Format α) : Format (List α) where
  encode l := .array (l.map f.encode)
  read := beforeValue.andThen fun _ => fun c =>
    if c.peek == some '[' then Reader.list f.read c else Reader.refuse "a sequence" c
  ofJson
    | .array items => itemsOfJson f.ofJson items
    | v => Json.refuse v "a sequence"

/-- The fields of an object put one after another into a list with ascending keys. -/
def entriesOfJson {α : Type} (f : Json → Except Cause α) :
    List (String × Json) → List (String × α) → Except Cause (List (String × α))
  | [], entries => .ok entries
  | (k, v) :: rest, entries =>
    match f v with
    | .error e => .error e
    | .ok a => entriesOfJson f rest (putField k a entries)

/-- Maps from strings, as lists with ascending keys. -/
def entries {α : Type} (f : Format α) : Format (List (String × α)) where
  encode l := .object (l.map fun e => (e.1, f.encode e.2))
  read := beforeValue.andThen fun _ => fun c =>
    if c.peek == some '\x7b' then
      Reader.object ([] : List (String × α))
        (fun key l => colon.andThen fun _ => f.read.map fun a => putField key a l)
        (fun l => give l) c
    else Reader.refuse "a map" c
  ofJson
    | .object fields => entriesOfJson f.ofJson fields []
    | v => Json.refuse v "a map"

/-- A format for another type with the same documents. -/
def convert {α β : Type} (f : Format α) (forth : α → β) (back : β → α) : Format β where
  encode b := f.encode (back b)
  read := f.read.map forth
  ofJson v := (f.ofJson v).map forth

-- ==================================================== enumerations

/-- Names for the values of an enumeration. A name that is not listed stands for `other`, or is
refused if there is none. -/
structure Names (α : Type) where
  nameOf : α → String
  known : List (String × α)
  other : Option α

/-- The value with the given name. -/
def Names.find {α : Type} (names : Names α) (s : String) : Except Cause α :=
  match names.known.find? fun p => p.1 = s with
  | some p => .ok p.2
  | none =>
    match names.other with
    | some a => .ok a
    | none => .error (.unknownVariant s (names.known.map (·.1)))

/-- Reads a name, its opening quote being next. -/
def Names.read {α : Type} (names : Names α) : Reader α :=
  Reader.string.andThen fun s =>
    match names.find s with
    | .ok a => give a
    | .error cause => stopHere cause

/-- Reads a document whose first character is `first` by `r`; any other is refused. -/
def startingWith {α : Type} (first : Char) (expected : String) (r : Reader α) : Reader α :=
  beforeValue.andThen fun _ => fun c =>
    if c.peek == some first then r c else Reader.refuse expected c

/-- The end of an object that has a single field. -/
def closeSingle : Reader Unit := fun c0 =>
  let c := c0.skipBlanks
  if c.atEnd then .error ⟨.endInObject, c.place⟩
  else if c.peek == some '\x7d' then .ok ((), c.advance)
  else .error ⟨.valueExpected, c.place⟩

/-- Reads an object whose only key is a name and whose value is `null`. -/
def Names.readObject {α : Type} (names : Names α) : Reader α :=
  eat.andThen fun _ =>
  (startingWith '"' "variant identifier" names.read).andThen fun a =>
  colon.andThen fun _ =>
  (startingWith 'n' "unit" nullWord).andThen fun _ =>
  closeSingle.map fun _ => a

/-- Enumerations, written as their names. An object with the name as its only key and `null` as its
value is read as the name. -/
def enumeration {α : Type} (names : Names α) : Format α where
  encode a := .string (names.nameOf a)
  read := beforeValue.andThen fun _ => fun c =>
    if c.peek == some '\x7b' then names.readObject c
    else if c.peek == some '"' then names.read c
    else stopAtNext .valueExpected c
  ofJson
    | .string s => names.find s
    | .object [(k, .null)] => names.find k
    | .object [(k, p)] =>
      match names.find k with
      | .error e => .error e
      | .ok _ => Json.refuse p "unit"
    | .object _ => .error (.wrongValue .map "map with a single key")
    | v => Json.refuse v "string or map"

end Format

-- ==================================================== records

/-- A field of a record: its key, the format of its value, and the value it has when the object
lacks the key. -/
structure Field (α : Type) where
  name : String
  format : Format α
  default? : Option α

/-- The fields of a record, in the order of their declaration; the index lists their types. -/
inductive Fields : Type → Type 1 where
  | nil : Fields Unit
  | cons {α ρ : Type} (field : Field α) (rest : Fields ρ) : Fields (α × ρ)

namespace Fields

open Reader

/-- How many fields there are. -/
def count {ρ : Type} : Fields ρ → Nat
  | .nil => 0
  | .cons _ rest => rest.count + 1

/-- The values gathered so far: for each field, the value that was read for it. -/
def Slots {ρ : Type} : Fields ρ → Type
  | .nil => Unit
  | .cons (α := α) _ rest => Option α × rest.Slots

/-- No field has been read. -/
def noSlots {ρ : Type} : (fs : Fields ρ) → fs.Slots
  | .nil => ()
  | .cons _ rest => (none, rest.noSlots)

/-- Whether a value was read for the field with the given key; none for an unknown key. -/
def isSet? {ρ : Type} (key : String) : (fs : Fields ρ) → fs.Slots → Option Bool
  | .nil, _ => none
  | .cons f rest, s => if key = f.name then some s.1.isSome else rest.isSet? key s.2

/-- Reads the value of the field with the given key. -/
def readField {ρ : Type} (key : String) : (fs : Fields ρ) → fs.Slots → Reader fs.Slots
  | .nil, s => give s
  | .cons f rest, s =>
    if key = f.name then f.format.read.map fun a => (some a, s.2)
    else (rest.readField key s.2).map fun t => (s.1, t)

/-- Takes the value of the field with the given key from a document. -/
def fieldOfJson {ρ : Type} (key : String) (v : Json) :
    (fs : Fields ρ) → fs.Slots → Except Cause fs.Slots
  | .nil, s => .ok s
  | .cons f rest, s =>
    if key = f.name then (f.format.ofJson v).map fun a => (some a, s.2)
    else (rest.fieldOfJson key v s.2).map fun t => (s.1, t)

/-- The record of the gathered values; the first missing field without a default refuses it. -/
def finish {ρ : Type} : (fs : Fields ρ) → fs.Slots → Except Cause ρ
  | .nil, _ => .ok ()
  | .cons f rest, s =>
    match s.1 <|> f.default? with
    | none => .error (.missingField f.name)
    | some a => (rest.finish s.2).map fun r => (a, r)

/-- The fields of a record as they are written. -/
def encode {ρ : Type} : Fields ρ → ρ → List (String × Json)
  | .nil, _ => []
  | .cons f rest, r => (f.name, f.format.encode r.1) :: rest.encode r.2

/-- Reads the fields from the items of a list, of which `n` are read; a list that ends early leaves
the defaults, or is refused. -/
def readItems {ρ : Type} (expected : String) : Nat → Fields ρ → Reader ρ
  | _, .nil => closeList.map fun _ => ()
  | n, .cons f rest => fun c =>
    match listNext (n == 0) c with
    | .error e => .error e
    | .ok (.item, c1) =>
      (f.format.read.andThen fun a => (rest.readItems expected (n + 1)).map fun r => (a, r)) c1
    | .ok (.close, c1) =>
      match f.default? with
      | none => .error ⟨.wrongLength n expected, c1.nextPlace⟩
      | some a => ((closed n rest).map fun r => (a, r)) c1
where
  /-- The defaults of the fields after the list's end. -/
  closed {ρ : Type} : Nat → Fields ρ → Reader ρ
    | _, .nil => closeList.map fun _ => ()
    | n, .cons f rest => fun c =>
      match f.default? with
      | none => .error ⟨.wrongLength (n + 1) expected, c.nextPlace⟩
      | some a => ((closed (n + 1) rest).map fun r => (a, r)) c

/-- Takes the fields from the items of an array, of which `n` are taken; `total` is the array's
length. -/
def itemsOfJson {ρ : Type} (expected : String) (total : Nat) :
    Nat → Fields ρ → List Json → Except Cause ρ
  | _, .nil, [] => .ok ()
  | _, .nil, _ :: _ => .error (.wrongLength total "fewer elements in array")
  | n, .cons f rest, v :: items =>
    match f.format.ofJson v with
    | .error e => .error e
    | .ok a => (rest.itemsOfJson expected total (n + 1) items).map fun r => (a, r)
  | n, .cons f rest, [] =>
    match f.default? with
    | none => .error (.wrongLength n expected)
    | some a => (rest.itemsOfJson expected total (n + 1) []).map fun r => (a, r)

/-- Takes the fields from an object's fields, one after another. -/
def slotsOfJson {ρ : Type} (fs : Fields ρ) :
    List (String × Json) → fs.Slots → Except Cause fs.Slots
  | [], s => .ok s
  | (k, v) :: rest, s =>
    match fs.isSet? k s with
    | some true => .error (.duplicateField k)
    | some false =>
      match fs.fieldOfJson k v s with
      | .error e => .error e
      | .ok s => slotsOfJson fs rest s
    | none => slotsOfJson fs rest s

end Fields

namespace Format

open Reader

/-- Where a field given twice is reported: after its key, the blanks that follow, and the bracket if
the object ends there. -/
def afterKey {α : Type} (cause : Cause) : Reader α := fun c0 =>
  let c := c0.skipBlanks
  .error ⟨cause, if c.peek == some '\x7d' then c.nextPlace else c.place⟩

/-- Records of the given name. -/
def record {ρ : Type} (name : String) (fs : Fields ρ) : Format ρ :=
  let expected := "struct " ++ name
  let counted := expected ++ " with " ++ toString fs.count ++ " elements"
  { encode := fun r => .object (fs.encode r)
    read := beforeValue.andThen fun _ => fun c =>
      if c.peek == some '\x7b' then
        Reader.object fs.noSlots
          (fun key s =>
            match fs.isSet? key s with
            | some true => afterKey (.duplicateField key)
            | some false => colon.andThen fun _ => fs.readField key s
            | none => colon.andThen fun _ => skip.map fun _ => s)
          (fun s =>
            match fs.finish s with
            | .ok r => give r
            | .error cause => stopHere cause) c
      else if c.peek == some '[' then (eat.andThen fun _ => fs.readItems counted 0) c
      else Reader.refuse expected c
    ofJson := fun v =>
      match v with
      | .object fields =>
        match fs.slotsOfJson fields fs.noSlots with
        | .error e => .error e
        | .ok s => fs.finish s
      | .array items => fs.itemsOfJson counted items.length 0 items
      | v => Json.refuse v expected }

end Format

/-- The value of a whole text. -/
def Format.decode {α : Type} (f : Format α) (text : String) : Except Fault α :=
  Reader.run f.read (text.toList.map some)

/-- The compact text of a value. -/
def Format.text {α : Type} (f : Format α) (a : α) : String := compact (f.encode a)

end FunctionConsole.Json
