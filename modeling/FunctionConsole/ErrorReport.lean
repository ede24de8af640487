import FunctionConsole.Text.Blank

/-!
# Error reports

The server puts the offending piece of source into an execution's error message, between the
markers `[CODE]` and `[/CODE]`, with a hint after it. The sections are told apart by their position
alone: the text before the first marker is the description, the text up to the next marker is the
snippet, and the text up to the one after that is the tip.
-/

namespace FunctionConsole

/-- An error message in sections. A blank section is absent. -/
structure ErrorReport where
  description : Option String
  code : Option String
  tip : Option String
  deriving DecidableEq, Repr, Inhabited

namespace ErrorReport

/-- The marker in front of a snippet. -/
def opening : List Char := ['[', 'C', 'O', 'D', 'E', ']']

/-- The marker behind a snippet. -/
def closing : List Char := ['[', '/', 'C', 'O', 'D', 'E', ']']

/-- The length of the marker that a text starts with, or 0. -/
def markerLength (l : List Char) : Nat :=
  if opening.isPrefixOf l then opening.length
  else if closing.isPrefixOf l then closing.length
  else 0

/-- The pieces of a text between its markers: `skip` characters still belong to a marker. -/
def piecesFrom : Nat → List Char → List (List Char)
  | _, [] => [[]]
  | skip + 1, _ :: rest => piecesFrom skip rest
  | 0, c :: rest =>
    match markerLength (c :: rest) with
    | n + 1 => [] :: piecesFrom n rest
    | 0 =>
      match piecesFrom 0 rest with
      | [] => [[c]]
      | piece :: more => (c :: piece) :: more

/-- The pieces of a text between its markers, the markers left out. -/
def pieces (l : List Char) : List (List Char) := piecesFrom 0 l

/-- A text as a section. -/
def proseSection? (l : List Char) : Option String :=
  Text.nonBlank? (String.ofList (Text.trimChars l))

/-- A snippet as a section: blank lines around it are dropped, its indentation is kept. -/
def codeSection? (l : List Char) : Option String :=
  Text.nonBlank? (String.ofList (Text.dropAroundWhile (· == '\n') l))

/-- The sections of an error message. -/
def parse (message : String) : ErrorReport :=
  let parts := pieces message.toList
  { description := parts[0]?.bind proseSection?
    code := parts[1]?.bind codeSection?
    tip := parts[2]?.bind proseSection? }

/-- Whether a report has no section. -/
def isEmpty (r : ErrorReport) : Bool := r.description.isNone && r.code.isNone && r.tip.isNone

end ErrorReport

end FunctionConsole
