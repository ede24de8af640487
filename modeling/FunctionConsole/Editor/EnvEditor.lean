import FunctionConsole.Editor.TextInput
import FunctionConsole.Resource.EnvVars

/-!
# Editor of environment variables

A table with a row for each variable. Every row remembers how it stands to the server's copy, so
that additions, changes and removals show before anything is saved. Values are masked.
-/

namespace FunctionConsole

/-- How a row stands to the server's copy. -/
inductive RowState where
  | unchanged
  | added
  | modified
  | removed
  deriving DecidableEq, Repr, Inhabited

/-- The two cells of a row. -/
inductive EnvColumn where
  | key
  | value
  deriving DecidableEq, Repr, Inhabited

/-- A variable in the editor. -/
structure EnvRow where
  key : TextInput
  value : TextInput
  state : RowState
  deriving DecidableEq, Repr, Inhabited

namespace EnvRow

/-- The row of a variable that the server has. -/
def ofEntry (e : String × String) : EnvRow :=
  { key := .ofString e.1, value := TextInput.secret.setValue e.2, state := .unchanged }

/-- An empty new row. -/
def blank : EnvRow := { key := {}, value := .secret, state := .added }

/-- Whether a row is saved: it is not marked removed, and its key or its value has text. -/
def isKept (r : EnvRow) : Bool := r.state != .removed && (!r.key.isEmpty || !r.value.isEmpty)

/-- The variable of a row. -/
def entry (r : EnvRow) : String × String := (r.key.value, r.value.value)

end EnvRow

/-- The rows, the selected one, and the column in which keys are typed. -/
structure EnvEditor where
  rows : List EnvRow := []
  selected : Nat := 0
  column : EnvColumn := .key
  deriving DecidableEq, Repr, Inhabited

namespace EnvEditor

/-- The editor of the server's copy. -/
def ofVars (vars : EnvVars) : EnvEditor := { rows := vars.entries.map EnvRow.ofEntry }

/-- Whether there are no rows. -/
def isEmpty (e : EnvEditor) : Bool := e.rows.isEmpty

/-- Whether a row differs from the server's copy. -/
def hasChanges (e : EnvEditor) : Bool := e.rows.any fun r => r.state != .unchanged

/-- Adds an empty row at the end and selects its key. -/
def add (e : EnvEditor) : EnvEditor :=
  { rows := e.rows ++ [.blank], selected := e.rows.length, column := .key }

/-- Drops an added row, takes the mark from a removed one, and marks any other as removed. -/
def toggleRemove (e : EnvEditor) (i : Nat) : EnvEditor :=
  match e.rows[i]? with
  | none => e
  | some row =>
    match row.state with
    | .added =>
      let rows := e.rows.eraseIdx i
      { e with rows, selected := min e.selected (rows.length - 1) }
    | .removed => { e with rows := e.rows.set i { row with state := .unchanged } }
    | .unchanged | .modified => { e with rows := e.rows.set i { row with state := .removed } }

/-- Selects the row below, if there is one. -/
def selectNext (e : EnvEditor) : EnvEditor :=
  if e.selected + 1 < e.rows.length then { e with selected := e.selected + 1 } else e

/-- Selects the row above, if there is one. -/
def selectPrevious (e : EnvEditor) : EnvEditor := { e with selected := e.selected - 1 }

/-- Moves to the other column. -/
def toggleColumn (e : EnvEditor) : EnvEditor :=
  { e with column := match e.column with | .key => .value | .value => .key }

/-- Gives a key to the selected cell. A removed row takes no keys; an unchanged row that is edited
becomes a modified one. -/
def editSelected (e : EnvEditor) (key : Key) : EnvEditor × KeyEffect :=
  match e.rows[e.selected]? with
  | none => (e, .ignored)
  | some row =>
    if row.state = .removed then (e, .ignored)
    else
      let cell := match e.column with | .key => row.key | .value => row.value
      let (cell', effect) := cell.handleKey key
      let state := if effect.changed && row.state = .unchanged then .modified else row.state
      let row' : EnvRow :=
        match e.column with
        | .key => { row with key := cell', state }
        | .value => { row with value := cell', state }
      ({ e with rows := e.rows.set e.selected row' }, effect)

/-- The variables to save. Of several rows with one key the last counts. -/
def collect (e : EnvEditor) : EnvVars :=
  .ofList ((e.rows.filter EnvRow.isKept).map EnvRow.entry)

/-- Takes the rows for the server's copy, after they were saved. -/
def commit (e : EnvEditor) : EnvEditor :=
  let rows := (ofVars e.collect).rows
  { rows, selected := min e.selected (rows.length - 1), column := e.column }

end EnvEditor

end FunctionConsole
