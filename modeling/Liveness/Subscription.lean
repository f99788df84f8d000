import Liveness.History

/-!
# Subscriptions

For each operator, the targets that follow it and the tracking of its attendance: the history, the
streak of misses and the alert level it has reached. Tracking and targets are written separately.
-/

namespace Liveness

/-- The state of attendance and alerts of one validator. -/
structure Tracking where
  /-- The number of misses in the running streak. -/
  counter : Nat
  /-- The alert level. -/
  level : Nat
  /-- The height of the newest miss, zero if there was none. -/
  lastMissed : Nat
  /-- The recent observations. -/
  history : History
  deriving DecidableEq, Repr

/-- An operator with its tracking and the targets that follow it. -/
structure Subscription where
  /-- The operator address. -/
  operator : String
  /-- The tracking. -/
  tracking : Tracking
  /-- The targets, oldest first. -/
  subscribers : List String
  deriving DecidableEq, Repr

namespace Tracking

/-- The tracking before any observation. -/
def fresh : Tracking := ⟨0, 1, 0, History.empty⟩

/-- The tracking without a streak. -/
def resetStreak (t : Tracking) : Tracking := { t with counter := 0, level := 1 }

/-- The tracking after an unjailing: no streak and no miss, with the history kept. -/
def restart (t : Tracking) : Tracking := { t.resetStreak with lastMissed := 0 }

end Tracking

namespace Subscription

/-- An operator that nobody follows and that was never observed. -/
def fresh (operator : String) : Subscription := ⟨operator, Tracking.fresh, []⟩

/-- Somebody follows the operator. -/
def hasSubscribers (s : Subscription) : Bool := !s.subscribers.isEmpty

/-- The target follows the operator. -/
def isFollowedBy (s : Subscription) (target : String) : Bool := s.subscribers.contains target

/-- The subscription with one more target; none if it is there already. -/
def addSubscriber? (s : Subscription) (target : String) : Option Subscription :=
  if s.isFollowedBy target then none else some { s with subscribers := s.subscribers ++ [target] }

/-- The subscription without a target; none if it is not there. -/
def removeSubscriber? (s : Subscription) (target : String) : Option Subscription :=
  if s.isFollowedBy target then
    some { s with subscribers := s.subscribers.filter (· != target) }
  else none

end Subscription

end Liveness
