/-!
# Documents

A document is the value of a JSON text. Objects keep their fields as a list: a written object shows
the list's order, and an object read from text has its keys in ascending order of code points with
the last of several equal keys kept (`putField`).
-/

namespace FunctionConsole

/-- A number of a document: a whole number, or the bits of a binary64 value. -/
inductive Number where
  | whole (n : Int)
  | float (bits : UInt64)
  deriving Repr, DecidableEq, Inhabited

/-- The value of a JSON text. -/
inductive Json where
  | null
  | bool (b : Bool)
  | number (n : Number)
  | string (s : String)
  | array (items : List Json)
  | object (fields : List (String × Json))
  deriving Repr, Inhabited

namespace Json

/-- The document of a natural number. -/
def nat (n : Nat) : Json := .number (.whole n)

/-- The document of an integer. -/
def int (n : Int) : Json := .number (.whole n)

/-- The document of an optional value: `null` when there is none. -/
def optional {α : Type} (f : α → Json) : Option α → Json
  | none => .null
  | some a => f a

/-- The first field with the given key. -/
def lookup? (key : String) : List (String × Json) → Option Json
  | [] => none
  | (k, v) :: rest => if k = key then some v else lookup? key rest

/-- The value of an object's field. -/
def field? (key : String) : Json → Option Json
  | .object fields => lookup? key fields
  | _ => none

/-- The text of a document that is a string. -/
def string? : Json → Option String
  | .string s => some s
  | _ => none

end Json

-- ==================================================== ascending keys

/-- Puts a value under a key into a list with ascending keys; an equal key has its value replaced. -/
def putField {α : Type} (key : String) (value : α) : List (String × α) → List (String × α)
  | [] => [(key, value)]
  | (k, v) :: rest =>
    if key = k then (key, value) :: rest
    else if key < k then (key, value) :: (k, v) :: rest
    else (k, v) :: putField key value rest

end FunctionConsole
