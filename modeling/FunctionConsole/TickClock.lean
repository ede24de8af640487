/-!
# The clock of the ticks

Ticks are paced by the time that has passed, so that a steady stream of keys cannot hold them back.
Times are in milliseconds and may go back; a time before the last tick counts as no time passed.
-/

namespace FunctionConsole

/-- The time between two ticks, and when the last one was. -/
structure TickClock where
  rate : Nat
  last : Int
  deriving DecidableEq, Repr, Inhabited

namespace TickClock

/-- The time since the last tick. -/
def elapsed (c : TickClock) (now : Int) : Nat := (now - c.last).toNat

/-- How long input may be waited for before the next tick is due. -/
def remaining (c : TickClock) (now : Int) : Nat := c.rate - c.elapsed now

/-- Whether a tick is due; if so, the next period starts. -/
def due (c : TickClock) (now : Int) : TickClock × Bool :=
  if c.elapsed now < c.rate then (c, false) else ({ c with last := now }, true)

end TickClock

end FunctionConsole
