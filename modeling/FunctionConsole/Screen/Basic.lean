import FunctionConsole.Api.Call
import FunctionConsole.Dialog
import FunctionConsole.Route
import FunctionConsole.Toasts

/-!
# What screens have in common

A screen is a value that knows the requests it needs on entry, how keys change it and how responses
change it. It touches nothing else: what it wants of the console it names in `Effects`. A key that a
screen leaves alone is `none`, and the console then tries its own bindings.
-/

namespace FunctionConsole

/-- Data that a screen asked for: still on the way, arrived, or not to be had. -/
inductive Loadable (α : Type) where
  | loading
  | loaded (a : α)
  | notFound
  deriving DecidableEq, Repr, Inhabited

namespace Loadable

/-- The data, if it has arrived. -/
def get? {α : Type} : Loadable α → Option α
  | .loaded a => some a
  | _ => none

/-- Whether the data is not to be had. -/
def isNotFound {α : Type} : Loadable α → Bool
  | .notFound => true
  | _ => false

/-- The rows of a page that has arrived. -/
def rows {α : Type} : Loadable (Listing α) → List α
  | .loaded l => l.rows
  | _ => []

/-- The number of rows in all, by a page that has arrived. -/
def total {α : Type} : Loadable (Listing α) → UInt64
  | .loaded l => l.pagination.total
  | _ => 0

end Loadable

/-- What every screen is made from. -/
structure ScreenContext where
  pageSize : UInt64
  baseUrl : String
  deriving DecidableEq, Repr, Inhabited

/-- What a screen asks of the console. -/
structure Effects where
  requests : List Request := []
  navigate : Option Route := none
  toasts : List (String × ToastKind) := []
  confirm : Option Dialog := none
  deriving DecidableEq, Repr, Inhabited

namespace Effects

/-- Nothing. -/
def none : Effects := {}

/-- A request. -/
def request (r : Request) : Effects := { requests := [r] }

/-- Another screen. -/
def goTo (route : Route) : Effects := { navigate := some route }

/-- A question. -/
def ask (dialog : Dialog) : Effects := { confirm := some dialog }

/-- A toast. -/
def toast (message : String) (kind : ToastKind) : Effects := { toasts := [(message, kind)] }

/-- A toast of success. -/
def success (message : String) : Effects := toast message .success

/-- A toast that tells of a failure. -/
def failure (message : String) : Effects := toast message .error

/-- A toast of information. -/
def info (message : String) : Effects := toast message .info

/-- The effects with one more request. -/
def andRequest (e : Effects) (r : Request) : Effects := { e with requests := e.requests ++ [r] }

/-- The effects with one more toast. -/
def andToast (e : Effects) (message : String) (kind : ToastKind) : Effects :=
  { e with toasts := e.toasts ++ [(message, kind)] }

/-- The effects with another screen to go to. -/
def andGoTo (e : Effects) (route : Route) : Effects := { e with navigate := some route }

end Effects

namespace Screen

/-- A selection brought back among `count` rows. -/
def clampIndex (index count : Nat) : Nat := min index (count - 1)

/-- The selection after a movement key in a table of `count` rows; none for any other key. -/
def moveSelection (selected count : Nat) : Key → Option Nat
  | .up | .char 'k' => some (selected - 1)
  | .down | .char 'j' => some (clampIndex (selected + 1) count)
  | .home | .char 'g' => some 0
  | .toEnd | .char 'G' => some (count - 1)
  | _ => none

/-- The first shown line of a text of `count` lines after a movement key; none for any other
key. -/
def moveScroll (scroll count : Nat) : Key → Option Nat
  | .up | .char 'k' => some (scroll - 1)
  | .down | .char 'j' => some (min (scroll + 1) (count - 1))
  | .home | .char 'g' => some 0
  | .toEnd | .char 'G' => some (count - 1)
  | _ => none

end Screen

end FunctionConsole
