import FunctionConsole.Decimal.Shortest
import FunctionConsole.Text.Quoted

/-!
# Why a document is refused

`Cause` lists the reasons; a fault of a text adds the place where the reading stopped. A value that
is already a document is refused with a cause alone.
-/

namespace FunctionConsole.Json

/-- What stood where something else was expected. -/
inductive Found where
  | null
  | boolean (b : Bool)
  | integer (n : Int)
  | float (bits : UInt64)
  | text (s : String)
  | sequence
  | map
  deriving Repr, DecidableEq

/-- The words for what was found. -/
def Found.describe : Found → String
  | .null => "null"
  | .boolean b => "boolean `" ++ (if b then "true" else "false") ++ "`"
  | .integer n => "integer `" ++ toString n ++ "`"
  | .float bits => "floating point `" ++ Decimal.renderBits bits ++ "`"
  | .text s => "string " ++ Text.quoted s
  | .sequence => "sequence"
  | .map => "map"

/-- The reasons to refuse a document. -/
inductive Cause where
  | endInList
  | endInObject
  | endInString
  | endInValue
  | colonExpected
  | listCommaOrEndExpected
  | objectCommaOrEndExpected
  | identExpected
  | valueExpected
  | badEscape
  | badNumber
  | numberOutOfRange
  | badUnicode
  | controlCharacter
  | keyNotString
  | loneSurrogate
  | trailingComma
  | trailingCharacters
  | cutSurrogatePair
  | tooDeep
  | wrongType (found : Found) (expected : String)
  | wrongValue (found : Found) (expected : String)
  | wrongLength (length : Nat) (expected : String)
  | unknownVariant (name : String) (known : List String)
  | missingField (name : String)
  | duplicateField (name : String)
  deriving Repr, DecidableEq

/-- A name between grave accents. -/
def ticked (s : String) : String := "`" ++ s ++ "`"

/-- The words for a choice between names. -/
def oneOf : List String → String
  | [a] => ticked a
  | [a, b] => ticked a ++ " or " ++ ticked b
  | names => "one of " ++ String.intercalate ", " (names.map ticked)

/-- The wording of a cause. -/
def Cause.message : Cause → String
  | .endInList => "EOF while parsing a list"
  | .endInObject => "EOF while parsing an object"
  | .endInString => "EOF while parsing a string"
  | .endInValue => "EOF while parsing a value"
  | .colonExpected => "expected `:`"
  | .listCommaOrEndExpected => "expected `,` or `]`"
  | .objectCommaOrEndExpected => "expected `,` or `\x7d`"
  | .identExpected => "expected ident"
  | .valueExpected => "expected value"
  | .badEscape => "invalid escape"
  | .badNumber => "invalid number"
  | .numberOutOfRange => "number out of range"
  | .badUnicode => "invalid unicode code point"
  | .controlCharacter => "control character (\\u0000-\\u001F) found while parsing a string"
  | .keyNotString => "key must be a string"
  | .loneSurrogate => "lone leading surrogate in hex escape"
  | .trailingComma => "trailing comma"
  | .trailingCharacters => "trailing characters"
  | .cutSurrogatePair => "unexpected end of hex escape"
  | .tooDeep => "recursion limit exceeded"
  | .wrongType found expected => "invalid type: " ++ found.describe ++ ", expected " ++ expected
  | .wrongValue found expected => "invalid value: " ++ found.describe ++ ", expected " ++ expected
  | .wrongLength n expected => "invalid length " ++ toString n ++ ", expected " ++ expected
  | .unknownVariant name known =>
    "unknown variant " ++ ticked name ++ ", " ++
      (if known.isEmpty then "there are no variants" else "expected " ++ oneOf known)
  | .missingField name => "missing field " ++ ticked name
  | .duplicateField name => "duplicate field " ++ ticked name

/-- A place in a text: the line, from 1, and the number of bytes before it in that line. -/
structure Place where
  line : Nat
  column : Nat
  deriving Repr, DecidableEq

/-- The place after one more byte or character of the given width. -/
def Place.after (p : Place) (c : Option Char) : Place :=
  match c with
  | some '\n' => ⟨p.line + 1, 0⟩
  | some c => ⟨p.line, p.column + c.utf8Size⟩
  | none => ⟨p.line, p.column + 1⟩

/-- The place after one more byte: a line break opens a line, any other byte is counted. -/
def Place.afterByte (p : Place) (c : Option Char) : Place :=
  match c with
  | some '\n' => ⟨p.line + 1, 0⟩
  | _ => ⟨p.line, p.column + 1⟩

/-- A cause and where in the text it was met. -/
structure Fault where
  cause : Cause
  place : Place
  deriving Repr, DecidableEq

/-- The wording of a fault. -/
def Fault.message (f : Fault) : String :=
  f.cause.message ++ " at line " ++ toString f.place.line ++ " column " ++ toString f.place.column

end FunctionConsole.Json
