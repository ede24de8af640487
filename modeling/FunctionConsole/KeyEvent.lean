import FunctionConsole.Key

/-!
# Key events of a terminal

What a terminal reports when a key goes down: the key and the modifiers held with it. The console
knows most keys; it cares about the control key only with a character, and about the shift key only
with the tabulator.
-/

namespace FunctionConsole

/-- A key as a terminal reports it. -/
inductive KeyCode where
  | char (c : Char)
  | enter
  | esc
  | tab
  | backTab
  | backspace
  | delete
  | up
  | down
  | left
  | right
  | home
  | toEnd
  | pageUp
  | pageDown
  | f (n : UInt8)
  /-- A key that the console does not know. -/
  | other
  deriving DecidableEq, Repr, Inhabited

/-- The modifiers held with a key. -/
structure Modifiers where
  shift : Bool := false
  control : Bool := false
  alt : Bool := false
  deriving DecidableEq, Repr, Inhabited

/-- The key that a terminal's report stands for. A character with the control key is taken in lower
case. -/
def Key.ofCode? (code : KeyCode) (held : Modifiers) : Option Key :=
  match code with
  | .char c => some (if held.control then .ctrl c.toLower else .char c)
  | .tab => some (if held.shift then .backTab else .tab)
  | .enter => some .enter
  | .esc => some .esc
  | .backTab => some .backTab
  | .backspace => some .backspace
  | .delete => some .delete
  | .up => some .up
  | .down => some .down
  | .left => some .left
  | .right => some .right
  | .home => some .home
  | .toEnd => some .toEnd
  | .pageUp => some .pageUp
  | .pageDown => some .pageDown
  | .f n => some (.f n)
  | .other => none

end FunctionConsole
