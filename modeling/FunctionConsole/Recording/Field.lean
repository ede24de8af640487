import FunctionConsole.Json.Basic

/-!
# Fields of recorded documents

Recordings are documents written by a person or a tool, so their fields are read leniently: what is
missing or of another kind is the default.
-/

namespace FunctionConsole.Json

/-- A field, `null` if it is missing. -/
def get (j : Json) (key : String) : Json := (j.field? key).getD .null

/-- The text of a string, empty for anything else. -/
def asText : Json → String
  | .string s => s
  | _ => ""

/-- The value of a whole number, 0 for anything else. -/
def asInt : Json → Int
  | .number (.whole n) => n
  | _ => 0

/-- The value of a truth value, false for anything else. -/
def asBool : Json → Bool
  | .bool b => b
  | _ => false

/-- The items of an array, none for anything else. -/
def asList : Json → List Json
  | .array l => l
  | _ => []

/-- The fields of an object, none for anything else. -/
def asFields : Json → List (String × Json)
  | .object l => l
  | _ => []

/-- The two texts of a pair. -/
def asPair (j : Json) : String × String :=
  match j.asList with
  | [a, b] => (a.asText, b.asText)
  | _ => ("", "")

/-- A field's text. -/
def text (j : Json) (key : String) : String := (j.get key).asText

/-- A field's text, if the field is a string. -/
def text? (j : Json) (key : String) : Option String := (j.get key).string?

/-- A field's whole number. -/
def whole (j : Json) (key : String) : Int := (j.get key).asInt

/-- A field's whole number, if the field is one. -/
def whole? (j : Json) (key : String) : Option Int :=
  match j.get key with
  | .number (.whole n) => some n
  | _ => none

/-- A field's natural number. -/
def natural (j : Json) (key : String) : Nat := (j.whole key).toNat

/-- A field's word of 64 bits, with a default for a missing one. -/
def word (j : Json) (key : String) (dflt : UInt64) : UInt64 :=
  ((j.whole? key).map fun n => UInt64.ofNat n.toNat).getD dflt

/-- A field's word of 32 bits. -/
def shortWord (j : Json) (key : String) : UInt32 := UInt32.ofNat (j.natural key)

/-- A field's truth value. -/
def flag (j : Json) (key : String) : Bool := (j.get key).asBool

/-- A field's items. -/
def items (j : Json) (key : String) : List Json := (j.get key).asList

/-- An array of the documents of some values. -/
def listOf {α : Type} (f : α → Json) (l : List α) : Json := .array (l.map f)

/-- An array of texts. -/
def texts (l : List String) : Json := listOf .string l

end FunctionConsole.Json
