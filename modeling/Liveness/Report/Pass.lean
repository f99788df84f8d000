import Liveness.Report
import Liveness.World

/-!
# Report passes

A pass sends one report for each validator that somebody follows. The reports do not depend on each
other: one that fails is left out, and one that waits for ever keeps the pass from its end but not
the others from being sent.
-/

namespace Liveness.Report

open Work

variable {κ σ : Type} [Chain κ] [Store σ]

/-- The report of one validator at `height`. -/
def ofSubscription (sub : Subscription) (blocks : List BlockRecord) (height interval : Nat) :
    Work κ σ Report := do
  match ← fetch (Store.findValidator · sub.operator) with
  | none => fail (Store.noValidator sub.operator)
  | some record =>
    let start := startHeight height interval
    let before ← ask (Chain.validator · sub.operator (some start))
    let after ← ask (Chain.validator · sub.operator (some height))
    let poolBefore ← ask (Chain.stakingPool · (some start))
    let poolAfter ← ask (Chain.stakingPool · (some height))
    return build sub record blocks height interval before after poolBefore poolAfter

/-- Sends the report of one validator to those who follow it. -/
def send (blocks : List BlockRecord) (height interval : Nat) (sub : Subscription) :
    Work κ σ Unit := do
  let report ← ofSubscription sub blocks height interval
  broadcast sub.subscribers (.report report)

/-- The step came to its end. -/
def succeeded : Except Stop Unit → Bool
  | .ok _ => true
  | .error _ => false

/-- Sends all reports at `height`, and counts them. -/
def pass (interval height : Nat) : Work κ σ Nat := do
  let subs ← fetch Store.allSubscriptions
  let blocks ← fetch Store.blocks
  let sent ← (subs.filter (·.hasSubscribers)).mapM fun sub =>
    attempt (send blocks height interval sub)
  if sent.any fun r => r matches .error .hung then throw .hung
  return sent.countP succeeded

/-- Puts off a pass if reports are due at a height: whether they are, and the schedule after it. -/
def trigger (s : Schedule) (height : Nat) : Work κ σ (Bool × Schedule) := do
  let (due, s) := s.crosses height
  if due then putOff (.report s.interval height)
  return (due, s)

end Liveness.Report
