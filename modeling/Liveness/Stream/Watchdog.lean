/-!
# The watchdog

Looks at the height of a block stream from time to time. If the height is the same at two looks in a
row, the stream stalls; a stall is reported once, until the height changes or a new connection is
watched.
-/

namespace Liveness

/-- A watchdog. -/
structure Watchdog where
  /-- The height at the last look. -/
  seen : Nat
  /-- The stall at that height was reported. -/
  fired : Bool
  deriving DecidableEq, Repr

namespace Watchdog

/-- Watching a new connection that starts at a height. -/
def rearmed (height : Nat) : Watchdog := ⟨height, false⟩

/-- Watching before any connection. -/
def fresh : Watchdog := rearmed 0

/-- One look: whether a stall is to be reported. -/
def tick (w : Watchdog) (height : Nat) : Bool × Watchdog :=
  if height = w.seen then (!w.fired, { w with fired := true }) else (false, rearmed height)

/-- What can happen to a watchdog. -/
inductive Event where
  /-- A look at a height. -/
  | tick (height : Nat)
  /-- A new connection that starts at a height. -/
  | rearm (height : Nat)
  deriving DecidableEq, Repr

/-- One event; a look answers whether a stall is to be reported. -/
def step (w : Watchdog) : Event → Option Bool × Watchdog
  | .tick height =>
    let (fires, w) := w.tick height
    (some fires, w)
  | .rearm height => (none, rearmed height)

/-- The answers to a list of events. -/
def run (w : Watchdog) : List Event → List (Option Bool)
  | [] => []
  | e :: rest => (w.step e).1 :: run (w.step e).2 rest

end Watchdog

end Liveness
