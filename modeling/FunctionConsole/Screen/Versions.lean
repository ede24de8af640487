import FunctionConsole.Screen.Basic

/-!
# Versions of a function

A table of the versions. Up to two of them can be checked for a comparison; a third one takes the
place of the one checked first.
-/

namespace FunctionConsole

/-- The screen with a function's versions. -/
structure VersionsScreen where
  id : String
  function : Loadable Function := .loading
  versions : Loadable VersionList := .loading
  selected : Nat := 0
  /-- The checked versions, the one checked first in front. -/
  checked : List UInt32 := []
  page : PageState
  deriving DecidableEq, Repr

namespace VersionsScreen

/-- How many versions a comparison takes. -/
def maxChecked : Nat := 2

/-- The request for the page the screen is on. -/
def pageRequest (s : VersionsScreen) : Request := .listVersions s.id s.page.limit s.page.offset

/-- The screen on entry, and its requests. -/
def enter (id : String) (ctx : ScreenContext) : VersionsScreen × List Request :=
  let s : VersionsScreen := { id, page := .first ctx.pageSize }
  (s, [.getFunction id, s.pageRequest])

/-- The highlighted version. -/
def selectedVersion (s : VersionsScreen) : Option Version := s.versions.rows[s.selected]?

/-- Whether a version is the active one. -/
def isActive (s : VersionsScreen) (version : UInt32) : Bool :=
  match s.function.get? with
  | some f => f.activeVersion.version == version
  | none => false

/-- Whether a version is checked. -/
def isChecked (s : VersionsScreen) (version : UInt32) : Bool := s.checked.contains version

/-- Checks a version, or takes its check away. -/
def toggleChecked (s : VersionsScreen) (version : UInt32) : VersionsScreen :=
  if s.checked.contains version then { s with checked := s.checked.erase version }
  else if s.checked.length = maxChecked then { s with checked := s.checked.drop 1 ++ [version] }
  else { s with checked := s.checked ++ [version] }

/-- The comparison of the two checked versions, the lower one first. -/
def compareRoute (s : VersionsScreen) : Option Route :=
  match s.checked with
  | [a, b] => some (.diff s.id (min a b) (max a b))
  | _ => none

/-- Loads function and versions anew. -/
def reload (s : VersionsScreen) : VersionsScreen × Effects :=
  ({ s with versions := .loading }, { requests := [.getFunction s.id, s.pageRequest] })

/-- Turns to another page, which has to be loaded. -/
def turnTo (s : VersionsScreen) (page : PageState) : VersionsScreen :=
  { s with versions := .loading, selected := 0, page }

/-- Asks whether to activate the highlighted version. -/
def activate (s : VersionsScreen) : Effects :=
  match s.selectedVersion with
  | none => .none
  | some v =>
    if s.isActive v.version then
      .info ("Version " ++ toString v.version.toNat ++ " is already active")
    else .ask (.activateVersion s.id v.version)

/-- What a key does. -/
def handleKey (s : VersionsScreen) (key : Key) : Option (VersionsScreen × Effects) :=
  match Screen.moveSelection s.selected s.versions.rows.length key with
  | some selected => some ({ s with selected }, .none)
  | none =>
    match s.page.handleKey key s.versions.total with
    | some (_, false) => some (s, .none)
    | some (page, true) => some (s.turnTo page, .request (s.turnTo page).pageRequest)
    | none =>
      match key with
      | .char ' ' =>
        match s.selectedVersion with
        | some v => some (s.toggleChecked v.version, .none)
        | none => some (s, .none)
      | .char 'a' => some (s, s.activate)
      | .char 'c' =>
        match s.compareRoute with
        | some route => some (s, .goTo route)
        | none => some (s, .info "Select two versions to compare")
      | _ => none

/-- What a response does. -/
def handleResponse (s : VersionsScreen) : Response → VersionsScreen × Effects
  | .function (.ok f) => ({ s with function := .loaded f }, .none)
  | .function (.error e) => ({ s with function := .notFound }, .failure e.message)
  | .versions page result =>
    if page ≠ s.page then (s, .none)
    else match result with
      | .ok list =>
        ({ s with
          selected := Screen.clampIndex s.selected list.rows.length
          versions := .loaded list }, .none)
      | .error e => ({ s with versions := .notFound }, .failure e.message)
  | .versionActivated version (.ok _) =>
    (s.reload.1,
      s.reload.2.andToast ("Version " ++ toString version.toNat ++ " activated") .success)
  | .versionActivated _ (.error e) => (s, .failure ("Failed to activate version: " ++ e.message))
  | _ => (s, .none)

end VersionsScreen

end FunctionConsole
