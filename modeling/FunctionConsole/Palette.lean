import FunctionConsole.Editor.TextInput
import FunctionConsole.Resource.Function
import FunctionConsole.Route
import FunctionConsole.Text.Lowercase

/-!
# Command palette

A list of screens to jump to, narrowed by a query. Opening it starts a new generation; the functions
that are loaded for it are accepted only while that generation lasts. An entry matches a query if
the trimmed query occurs in its label or its description, upper and lower case not told apart.
-/

namespace FunctionConsole

/-- What an entry leads to. -/
inductive PaletteItemKind where
  | navigation
  | function
  deriving DecidableEq, Repr, Inhabited

/-- An entry of the palette. -/
structure PaletteItem where
  label : String
  description : String
  route : Route
  kind : PaletteItemKind
  /-- The entry opens a disabled function. Only a function's first entry says so. -/
  disabled : Bool
  deriving DecidableEq, Repr, Inhabited

namespace PaletteItem

/-- Whether a query in lower case occurs in an entry. -/
def isMatch (item : PaletteItem) (needle : List Char) : Bool :=
  Text.occursIn needle (Text.lower item.label.toList) ||
    Text.occursIn needle (Text.lower item.description.toList)

/-- The entries that need no function. -/
def navigation : List PaletteItem :=
  [⟨"Functions", "View all functions", .functions, .navigation, false⟩,
   ⟨"Create Function", "Create a new function", .create, .navigation, false⟩]

/-- The five entries of a function. -/
def ofFunction (f : Function) : List PaletteItem :=
  let sub (name description : String) (route : Route) : PaletteItem :=
    ⟨f.name ++ " → " ++ name, description, route, .function, false⟩
  [⟨f.name, "Go to Code", .code f.id, .function, f.disabled⟩,
   sub "Versions" "View version history" (.versions f.id),
   sub "Executions" "View execution logs" (.executions f.id),
   sub "Settings" "Configure function" (.settings f.id),
   sub "Test" "Test function" (.test f.id)]

/-- The entries for a list of functions. -/
def ofFunctions (fs : List Function) : List PaletteItem := navigation ++ fs.flatMap ofFunction

/-- The query as it is compared. -/
def needle (query : String) : List Char := Text.lower (Text.trimChars query.toList)

/-- The positions, from `i` on, of the entries that satisfy `p`. -/
def positions (p : PaletteItem → Bool) : Nat → List PaletteItem → List Nat
  | _, [] => []
  | i, item :: rest => if p item then i :: positions p (i + 1) rest else positions p (i + 1) rest

/-- The positions of the entries that match a query; a blank query matches all. -/
def filter (items : List PaletteItem) (query : String) : List Nat :=
  let n := needle query
  positions (fun item => n.isEmpty || item.isMatch n) 0 items

end PaletteItem

/-- What a key asks of the console. -/
inductive PaletteEffect where
  | none
  | close
  | navigate (route : Route)
  deriving DecidableEq, Repr, Inhabited

/-- The palette: its entries, the positions of those that match, and the highlighted match. -/
structure Palette where
  isOpen : Bool := false
  query : TextInput := {}
  loading : Bool := false
  items : List PaletteItem := []
  filtered : List Nat := []
  selected : Nat := 0
  /-- How often it was opened, without a bound, as with the screens of the console. -/
  generation : Nat := 0
  deriving DecidableEq, Repr, Inhabited

namespace Palette

/-- Narrows the entries anew and keeps the highlight among the matches. -/
def refilter (p : Palette) : Palette :=
  let filtered := PaletteItem.filter p.items p.query.value
  { p with filtered, selected := min p.selected (filtered.length - 1) }

/-- Opens the palette with an empty query, as a new generation. -/
def opened (p : Palette) : Palette :=
  refilter { p with
    isOpen := true
    query := p.query.clear
    loading := true
    items := PaletteItem.navigation
    selected := 0
    generation := p.generation + 1 }

/-- Closes the palette. -/
def close (p : Palette) : Palette := { p with isOpen := false, loading := false }

/-- Puts in the entries of the loaded functions. -/
def setFunctions (p : Palette) (fs : List Function) : Palette :=
  refilter { p with loading := false, items := PaletteItem.ofFunctions fs }

/-- Replaces the query and highlights the first match. -/
def setQuery (p : Palette) (query : String) : Palette :=
  refilter { p with query := p.query.setValue query, selected := 0 }

/-- The entries that match. -/
def results (p : Palette) : List PaletteItem := p.filtered.filterMap fun i => p.items[i]?

/-- The highlighted entry. -/
def selectedItem (p : Palette) : Option PaletteItem :=
  (p.filtered[p.selected]?).bind fun i => p.items[i]?

/-- Highlights the next match, if there is one. -/
def selectNext (p : Palette) : Palette :=
  { p with selected := min (p.selected + 1) (p.filtered.length - 1) }

/-- Highlights the match before. -/
def selectPrevious (p : Palette) : Palette := { p with selected := p.selected - 1 }

/-- Gives a key to the query; an edit highlights the first match. -/
def editQuery (p : Palette) (key : Key) : Palette :=
  let (query, effect) := p.query.handleKey key
  if effect.changed then refilter { p with query, selected := 0 } else { p with query }

/-- What a key does to the palette and asks of the console. -/
def handleKey (p : Palette) : Key → Palette × PaletteEffect
  | .esc | .ctrl 'k' => (p, .close)
  | .up | .ctrl 'p' => (p.selectPrevious, .none)
  | .down | .ctrl 'n' => (p.selectNext, .none)
  | .enter =>
    match p.selectedItem with
    | some item => (p, .navigate item.route)
    | none => (p, .none)
  | key => (p.editQuery key, .none)

end Palette

end FunctionConsole
