import FunctionConsole.Toml.Lexeme

/-!
# Reading a TOML text

Values in values, and then the text line by line. Arrays and tables in braces nest to a limited
depth, so reading a value recurses on the depth that is left. What comes out is the tree of the
document, or nothing if any line breaks a rule; where it went wrong is not kept, for no answer
shows it.
-/

namespace FunctionConsole.Toml

-- ==================================================== values in values

/-- The values of an array after its opening bracket, up to the closing one. -/
def arrayRest (value : List Char → Read Item) : (fuel : Nat) → List Char → Read (List Item)
  | 0, _ => none
  | fuel + 1, cs =>
    match skipLines (cs.length + 1) cs with
    | none => none
    | some (']' :: cs) => some ([], cs)
    | some cs =>
      match value cs with
      | none => none
      | some (v, cs) =>
        match skipLines (cs.length + 1) cs with
        | some (',' :: cs) => (arrayRest value fuel cs).map fun (vs, cs) => (v :: vs, cs)
        | some (']' :: cs) => some ([v], cs)
        | _ => none

/-- A key, the equals sign, and the value. -/
def pair (value : List Char → Read Item) (cs : List Char) : Read (List String × Item) :=
  match key cs with
  | some (keys, '=' :: cs) => (value (skipBlanks cs)).map fun (v, cs) => ((keys, v), cs)
  | _ => none

/-- The pairs of a table in braces after the first; each adds to the entries so far. -/
def bracedRest (value : List Char → Read Item) : (fuel : Nat) → Entries → List Char → Read Entries
  | 0, _, _ => none
  | fuel + 1, es, cs =>
    match pair value cs with
    | none => none
    | some ((keys, v), cs) =>
      match keys.getLast? with
      | none => none
      | some k =>
        match es.putDotted k v keys.dropLast true with
        | none => none
        | some es =>
          match skipBlanks cs with
          | ',' :: cs => bracedRest value fuel es cs
          | '\x7d' :: cs => some (es, cs)
          | _ => none

/-- A value, with so many levels of nesting left. -/
def value : (depth : Nat) → List Char → Read Item
  | _, [] => none
  | depth, c :: cs =>
    if c = '"' ∨ c = '\'' then (string (c :: cs)).map fun (s, cs) => (.text s, cs)
    else if c = '[' then
      match depth with
      | 0 => none
      | depth + 1 =>
        (arrayRest (value depth) (cs.length + 1) cs).map fun (vs, cs) => (.array vs, cs)
    else if c = '\x7b' then
      match depth with
      | 0 => none
      | depth + 1 =>
        match skipBlanks cs with
        | '\x7d' :: cs => some (.braced [], cs)
        | cs =>
          (bracedRest (value depth) (cs.length + 1) [] cs).map fun (es, cs) => (.braced es, cs)
    else if c = 't' ∨ c = 'f' then truth (c :: cs)
    else number (c :: cs)

-- ==================================================== lines

/-- One line that is not blank, after the blanks in front of it. -/
def line (d : Document) (cs : List Char) : Option (Document × List Char) :=
  match cs with
  | '[' :: '[' :: cs =>
    match key cs with
    | some (keys, ']' :: ']' :: cs) =>
      (lineRest cs).bind fun cs => (d.enter keys true).map (·, cs)
    | _ => none
  | '[' :: cs =>
    match key cs with
    | some (keys, ']' :: cs) => (lineRest cs).bind fun cs => (d.enter keys false).map (·, cs)
    | _ => none
  | cs =>
    match pair (value (depthLimit - 1)) cs with
    | some ((keys, v), cs) => (lineRest cs).bind fun cs => (d.assign keys v).map (·, cs)
    | none => none

/-- All lines of a text. -/
def lines : (fuel : Nat) → Document → List Char → Option Document
  | 0, _, _ => none
  | fuel + 1, d, cs =>
    match skipBlanks cs with
    | [] => some d
    | '\n' :: cs => lines fuel d cs
    | '\r' :: '\n' :: cs => lines fuel d cs
    | '#' :: cs =>
      match lineEnd (cs.dropWhile isPlain) with
      | some cs => lines fuel d cs
      | none => none
    | cs =>
      match line d cs with
      | some (d, cs) => lines fuel d cs
      | none => none

/-- The tree of a text; a mark of the byte order may stand in front. -/
def read? (text : String) : Option Entries :=
  let cs := match text.toList with
    | '\uFEFF' :: cs => cs
    | cs => cs
  (lines (cs.length + 1) {} cs).map Document.entries

end FunctionConsole.Toml
