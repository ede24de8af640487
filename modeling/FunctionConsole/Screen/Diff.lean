import FunctionConsole.Screen.Basic

/-!
# Difference between two versions
-/

namespace FunctionConsole

/-- The screen with the difference between two versions. -/
structure DiffScreen where
  id : String
  old : UInt32
  new : UInt32
  function : Loadable Function := .loading
  diff : Loadable VersionDiff := .loading
  /-- The first line that is asked to be shown. -/
  scroll : Nat := 0
  deriving DecidableEq, Repr

namespace DiffScreen

/-- How many lines a page key moves. -/
def pageLines : Nat := 10

/-- The screen on entry, and its requests. -/
def enter (id : String) (old new : UInt32) : DiffScreen × List Request :=
  ({ id, old, new }, [.getFunction id, .diffVersions id old new])

/-- The function's name, or its id while it is not known, and the two versions. -/
def subtitle (s : DiffScreen) : String :=
  let name := match s.function.get? with
    | some f => f.name
    | none => s.id
  name ++ " - v" ++ toString s.old.toNat ++ " → v" ++ toString s.new.toNat

/-- How many lines there are. -/
def lineCount (s : DiffScreen) : Nat :=
  match s.diff.get? with
  | some d => d.diff.length
  | none => 0

/-- What a key does. -/
def handleKey (s : DiffScreen) : Key → Option (DiffScreen × Effects)
  | .pageUp => some ({ s with scroll := s.scroll - pageLines }, .none)
  | .pageDown => some ({ s with scroll := min (s.scroll + pageLines) (s.lineCount - 1) }, .none)
  | key => (Screen.moveScroll s.scroll s.lineCount key).map fun scroll => ({ s with scroll }, .none)

/-- What a response does. A function that is not to be had takes the difference with it. -/
def handleResponse (s : DiffScreen) : Response → DiffScreen × Effects
  | .function (.ok f) => ({ s with function := .loaded f }, .none)
  | .function (.error e) =>
    ({ s with diff := .notFound, function := .notFound }, .failure e.message)
  | .diff (.ok d) =>
    ({ s with diff := if s.function.isNotFound then s.diff else .loaded d, scroll := 0 }, .none)
  | .diff (.error e) => ({ s with diff := .notFound }, .failure e.message)
  | _ => (s, .none)

end DiffScreen

end FunctionConsole
