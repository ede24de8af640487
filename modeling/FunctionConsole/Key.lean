/-!
# Keys

A key press as the console sees it, whatever terminal it came from.
-/

namespace FunctionConsole

/-- A key press. -/
inductive Key where
  /-- A printable character. -/
  | char (c : Char)
  /-- A character together with the control key. -/
  | ctrl (c : Char)
  | up
  | down
  | left
  | right
  | home
  | toEnd
  | pageUp
  | pageDown
  | enter
  | esc
  | tab
  | backTab
  | backspace
  | delete
  /-- A function key by its number. -/
  | f (n : UInt8)
  deriving DecidableEq, Repr, Inhabited

/-- The printable character of a key. -/
def Key.char? : Key → Option Char
  | .char c => some c
  | _ => none

/-- What a key did to a text buffer: nothing because it is not the buffer's key, no more than a
move of the cursor, or a change of the text. -/
inductive KeyEffect where
  | ignored
  | moved
  | edited
  deriving DecidableEq, Repr, Inhabited

namespace KeyEffect

/-- The buffer took the key. -/
def consumed (e : KeyEffect) : Bool := e != .ignored

/-- The text changed, or was set anew. -/
def changed (e : KeyEffect) : Bool := e == .edited

/-- The effect of a removal that removed something or not. -/
def ofRemoval (removed : Bool) : KeyEffect := if removed then .edited else .moved

end KeyEffect

end FunctionConsole
