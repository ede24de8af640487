import FunctionConsole.Console

/-!
# A console with a backend

Messages and the calls they cause, run against something that answers them. Pending calls are
answered one at a time, the oldest first, and the calls that an answer causes go to the end.
-/

namespace FunctionConsole.Console

/-- Answers pending calls until none is left, at most `n` of them. -/
def answer {m : Type → Type} [Monad m] (b : Backend m) (now : Moment) :
    Nat → Console → List Call → m Console
  | 0, c, _ => pure c
  | _, c, [] => pure c
  | n + 1, c, call :: pending => do
    let response ← b.execute call.request
    let (c', calls) := c.process now (.api call.ticket response)
    answer b now n c' (pending ++ calls)

/-- More answers than a message can cause. -/
def answerLimit : Nat := 1000

/-- A message, and the answers to all calls that come of it. -/
def processWith {m : Type → Type} [Monad m] (b : Backend m) (c : Console) (now : Moment)
    (msg : Message) : m Console :=
  let (c', calls) := c.process now msg
  answer b now answerLimit c' calls

end FunctionConsole.Console
