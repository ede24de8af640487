import FunctionConsole.Text.Blank

/-!
# Routes

Every screen has an address. `Route.path` writes it as a path and `Route.parse` reads it back.
-/

namespace FunctionConsole

/-- The address of a screen. -/
inductive Route where
  | login
  | functions
  | create
  | code (id : String)
  | versions (id : String)
  | executions (id : String)
  | settings (id : String)
  | test (id : String)
  | diff (id : String) (old new : UInt32)
  | execution (id : String)
  | preview (component : Option String)
  deriving DecidableEq, Repr, Inhabited

/-- The tabs that every screen of a function shows. -/
inductive FunctionTab where
  | code
  | versions
  | executions
  | settings
  | test
  deriving DecidableEq, Repr, Inhabited

namespace FunctionTab

/-- The tabs in their order. -/
def all : List FunctionTab := [.code, .versions, .executions, .settings, .test]

/-- The label of a tab. -/
def label : FunctionTab → String
  | .code => "Code"
  | .versions => "Versions"
  | .executions => "Executions"
  | .settings => "Settings"
  | .test => "Test"

/-- The position of a tab. -/
def index : FunctionTab → Nat
  | .code => 0
  | .versions => 1
  | .executions => 2
  | .settings => 3
  | .test => 4

/-- The address of a function's tab. -/
def route (id : String) : FunctionTab → Route
  | .code => .code id
  | .versions => .versions id
  | .executions => .executions id
  | .settings => .settings id
  | .test => .test id

end FunctionTab

namespace Route

-- ==================================================== reading

/-- The value of a run of decimal digits, none for any other character. -/
def digitsValue? : List Char → Nat → Option Nat
  | [], n => some n
  | c :: rest, n => if c.isDigit then digitsValue? rest (n * 10 + (c.toNat - '0'.toNat)) else none

/-- A word of 32 bits in decimal digits; a plus sign and zeros in front are allowed. -/
def readWord? (l : List Char) : Option UInt32 :=
  let digits := match l with
    | '+' :: rest => rest
    | l => l
  if digits.isEmpty then none
  else match digitsValue? digits 0 with
    | some n => if n < UInt32.size then some (UInt32.ofNat n) else none
    | none => none

/-- The segments of a path, its blanks at both ends and a leading `#!` or `#` dropped; none if it
does not start with a slash or has an empty segment. -/
def segments? (path : String) : Option (List String) :=
  let l := Text.trimChars path.toList
  let l := match l with
    | '#' :: '!' :: rest => rest
    | '#' :: rest => rest
    | l => l
  match l with
  | '/' :: rest =>
    let parts := Text.splitOnChar (· == '/') rest
    if parts.any List.isEmpty then none else some (parts.map String.ofList)
  | _ => none

/-- The address with the given segments. -/
def ofSegments? : List String → Option Route
  | ["login"] => some .login
  | ["functions"] => some .functions
  | ["functions", "new"] => some .create
  | ["functions", id] => some (.code id)
  | ["functions", id, "code"] => some (.code id)
  | ["functions", id, "versions"] => some (.versions id)
  | ["functions", id, "executions"] => some (.executions id)
  | ["functions", id, "settings"] => some (.settings id)
  | ["functions", id, "test"] => some (.test id)
  | ["functions", id, "diff", old, new] =>
    match readWord? old.toList, readWord? new.toList with
    | some old, some new => some (.diff id old new)
    | _, _ => none
  | ["executions", id] => some (.execution id)
  | ["preview"] => some (.preview none)
  | ["preview", component] => some (.preview (some component))
  | _ => none

/-- The address that a path writes, if it writes one. -/
def parse (path : String) : Option Route := (segments? path).bind ofSegments?

-- ==================================================== writing

/-- The path of an address. The short form of an id spelled `new` would be read as the create
screen, so it gets the long one. -/
def path : Route → String
  | .login => "/login"
  | .functions => "/functions"
  | .create => "/functions/new"
  | .code id => if id = "new" then "/functions/new/code" else "/functions/" ++ id
  | .versions id => "/functions/" ++ id ++ "/versions"
  | .executions id => "/functions/" ++ id ++ "/executions"
  | .settings id => "/functions/" ++ id ++ "/settings"
  | .test id => "/functions/" ++ id ++ "/test"
  | .diff id old new =>
    "/functions/" ++ id ++ "/diff/" ++ toString old.toNat ++ "/" ++ toString new.toNat
  | .execution id => "/executions/" ++ id
  | .preview none => "/preview"
  | .preview (some component) => "/preview/" ++ component

-- ==================================================== reading off

/-- The function that a screen belongs to. -/
def functionId? : Route → Option String
  | .code id | .versions id | .executions id | .settings id | .test id | .diff id _ _ => some id
  | _ => none

/-- The tab that is highlighted. -/
def tab? : Route → Option FunctionTab
  | .code _ => some .code
  | .versions _ => some .versions
  | .executions _ => some .executions
  | .settings _ => some .settings
  | .test _ => some .test
  | _ => none

/-- Where the way back leads. An execution leads to its function once that is known. -/
def back (executionFunction : Option String) : Route → Option Route
  | .login | .functions => none
  | .create | .code _ | .versions _ | .executions _ | .settings _ | .test _ => some .functions
  | .diff id _ _ => some (.code id)
  | .execution _ =>
    match executionFunction with
    | some id => some (.executions id)
    | none => some .functions
  | .preview (some _) => some (.preview none)
  | .preview none => some .functions

/-- The trail in the header, outermost first. -/
def breadcrumb : Route → List String
  | .login => ["Login"]
  | .functions => ["Functions"]
  | .create => ["Functions", "New"]
  | .code id => ["Functions", id, "Code"]
  | .versions id => ["Functions", id, "Versions"]
  | .executions id => ["Functions", id, "Executions"]
  | .settings id => ["Functions", id, "Settings"]
  | .test id => ["Functions", id, "Test"]
  | .diff id old new =>
    ["Functions", id, "Diff v" ++ toString old.toNat ++ " → v" ++ toString new.toNat]
  | .execution id => ["Executions", id]
  | .preview component => "Preview" :: component.toList

/-- Whether a screen can be reached without logging in. -/
def isPublic : Route → Bool
  | .login | .preview _ => true
  | _ => false

end Route

end FunctionConsole
