/-!
# Toasts

Short notes that vanish by themselves. Every toast has a number that is never given twice, and the
moment from which it counts as expired. Moments are milliseconds from some fixed start.
-/

namespace FunctionConsole

/-- A moment, in milliseconds. -/
abbrev Moment := Int

/-- What a toast tells. -/
inductive ToastKind where
  | success
  | error
  | info
  deriving DecidableEq, Repr, Inhabited

/-- A note on the screen. -/
structure Toast where
  id : Nat
  message : String
  kind : ToastKind
  expiresAt : Moment
  deriving DecidableEq, Repr, Inhabited

/-- All notes, the oldest first, and the number of the next one. Numbers have no bound here; that
one of 64 bits would start anew after 2 ^ 64 notes is left out. -/
structure Toasts where
  items : List Toast := []
  nextId : Nat := 1
  duration : Nat := 3000
  deriving DecidableEq, Repr, Inhabited

namespace Toasts

/-- Adds a note that expires after the duration. -/
def push (t : Toasts) (message : String) (kind : ToastKind) (now : Moment) : Toasts :=
  { t with
    items := t.items ++ [{ id := t.nextId, message, kind, expiresAt := now + t.duration }]
    nextId := t.nextId + 1 }

/-- Removes the note with a number. -/
def dismiss (t : Toasts) (id : Nat) : Toasts :=
  { t with items := t.items.filter fun toast => toast.id != id }

/-- Removes the notes whose moment has come; says how many. -/
def expire (t : Toasts) (now : Moment) : Toasts × Nat :=
  let kept := t.items.filter fun toast => toast.expiresAt > now
  ({ t with items := kept }, t.items.length - kept.length)

end Toasts

end FunctionConsole
