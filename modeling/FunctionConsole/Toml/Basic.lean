/-!
# Documents of named tables

The values of a TOML document and the rules by which its lines build one tree. A table can come
into being in three ways: by its own header, as a step on the way to another header, or as a step
in a dotted key. Where it came from decides what may still be added to it.
-/

namespace FunctionConsole.Toml

/-- How a table came into being. -/
inductive Origin where
  /-- By a header of its own. -/
  | header
  /-- On the way to a header further down. -/
  | passing
  /-- On the way of a dotted key. -/
  | dotted
  deriving DecidableEq, Repr, Inhabited

/-- What a key can stand for. Numbers with a fraction and moments are read, but carry nothing. -/
inductive Item where
  | text (s : String)
  | integer (n : Int)
  | float
  | bool (b : Bool)
  | moment
  | array (items : List Item)
  /-- A table written in braces; it is closed once it is read. -/
  | braced (entries : List (String × Item))
  | table (origin : Origin) (entries : List (String × Item))
  /-- Tables that share a header in double brackets, the newest first. -/
  | tables (newest : List (String × Item)) (older : List (List (String × Item)))
  deriving Repr, Inhabited

/-- The entries of a table, in the order they were added; no two share a key. -/
abbrev Entries := List (String × Item)

namespace Entries

/-- What a key stands for. -/
def get? (es : Entries) (key : String) : Option Item := (es.find? fun e => e.1 = key).map Prod.snd

/-- Sets a key, in place if it is there and at the end if not. -/
def set (es : Entries) (key : String) (v : Item) : Entries :=
  if es.any fun e => e.1 = key then es.map fun e => if e.1 = key then (key, v) else e
  else es ++ [(key, v)]

/--
Adds a value under a dotted key whose last part is `key`. The tables on the way may not have a
header of their own, and the last of them must be one that a dotted key made (`own` says so of the
table at hand). No key is set twice.
-/
def putDotted (key : String) (v : Item) : List String → Bool → Entries → Option Entries
  | [], own, es => if own ∧ (es.get? key).isNone then some (es ++ [(key, v)]) else none
  | k :: ks, _, es =>
    match es.get? k with
    | none => (putDotted key v ks true []).map fun sub => es ++ [(k, .table .dotted sub)]
    | some (.table .header _) => none
    | some (.table o sub) =>
      (putDotted key v ks (o == .dotted) sub).map fun sub => es.set k (.table o sub)
    | some (.tables newest older) =>
      (putDotted key v ks false newest).map fun sub => es.set k (.tables sub older)
    | some _ => none

/-- Changes the table at the end of a path of header keys; of tables in a row the newest counts. -/
def atHeader (f : Entries → Option Entries) : List String → Entries → Option Entries
  | [], es => f es
  | k :: ks, es =>
    match es.get? k with
    | none => (atHeader f ks []).map fun sub => es ++ [(k, .table .passing sub)]
    | some (.table o sub) => (atHeader f ks sub).map fun sub => es.set k (.table o sub)
    | some (.tables newest older) =>
      (atHeader f ks newest).map fun sub => es.set k (.tables sub older)
    | some _ => none

/-- A header opens its table, unless the table was opened or given values before. -/
def openTable (key : String) (es : Entries) : Option Entries :=
  match es.get? key with
  | none => some (es ++ [(key, .table .header [])])
  | some (.table .passing sub) => some (es.set key (.table .header sub))
  | some _ => none

/-- A header in double brackets adds a table to those that share it. -/
def openNext (key : String) (es : Entries) : Option Entries :=
  match es.get? key with
  | none => some (es ++ [(key, .tables [] [])])
  | some (.tables newest older) => some (es.set key (.tables [] (newest :: older)))
  | some _ => none

end Entries

/-- A document as far as it is read: its tree and the path of the table that is open. -/
structure Document where
  entries : Entries := []
  path : List String := []
  deriving Repr, Inhabited

namespace Document

/-- A line that gives a key in the open table a value. -/
def assign (d : Document) (keys : List String) (v : Item) : Option Document :=
  match keys.getLast? with
  | none => none
  | some key =>
    (d.entries.atHeader (Entries.putDotted key v keys.dropLast true) d.path).map
      fun es => { d with entries := es }

/-- A line that opens a table, or the next table of a row. -/
def enter (d : Document) (keys : List String) (next : Bool) : Option Document :=
  match keys.getLast? with
  | none => none
  | some key =>
    (d.entries.atHeader (if next then Entries.openNext key else Entries.openTable key)
      keys.dropLast).map fun es => { entries := es, path := keys }

end Document

end FunctionConsole.Toml
