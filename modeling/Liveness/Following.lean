import Liveness.Registry

/-!
# Following validators

Targets follow operators and stop following them. A validator can be followed only from outside
jail, and a subscription that nobody follows any more is dropped unless all validators are tracked
anyway.
-/

namespace Liveness.Following

open Work

variable {κ σ : Type} [Chain κ] [Store σ]

/-- A target starts to follow an operator. -/
def subscribe (accountPrefix operator target : String) : Work κ σ Subscription := do
  if !Address.isOperator operator accountPrefix then fail (.invalidAddress operator)
  let r ← Registry.refreshOne accountPrefix operator
  if r.jailed then fail (.rejected s!"{r.displayName} is jailed right now")
  let _ ← Registry.ensureSubscription operator
  match ← Registry.subscription? operator with
  | none => fail (Store.noSubscription operator)
  | some sub =>
    match sub.addSubscriber? target with
    | none => return sub
    | some sub =>
      commit (Store.setSubscribers · operator sub.subscribers)
      return sub

/-- A target stops to follow an operator. -/
def unsubscribe (trackAll : Bool) (operator target : String) : Work κ σ Unit := do
  match ← Registry.subscription? operator with
  | none => fail (Store.noSubscription operator)
  | some sub =>
    match sub.removeSubscriber? target with
    | none => fail (.notFound s!"{target} is not subscribed to {operator}")
    | some sub =>
      if !sub.hasSubscribers && !trackAll then commit (Store.deleteSubscription · operator)
      else commit (Store.setSubscribers · operator sub.subscribers)

/-- The operators that a target follows. -/
def followedBy (target : String) : Work κ σ (List String) := do
  let subs ← fetch Store.allSubscriptions
  return (subs.filter (·.isFollowedBy target)).map (·.operator)

end Liveness.Following
