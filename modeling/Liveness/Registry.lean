import Liveness.Mutation
import Liveness.World

/-!
# The registry of validators

Keeping the records in step with the chain: all of them at once, one at a time, and as the
transactions of a block tell. Every validator with a record may have a subscription, which at first
nobody follows.
-/

namespace Liveness.Registry

open Work

variable {κ σ : Type} [Chain κ] [Store σ]

/-- The record of a reported validator. -/
def recordOf (accountPrefix : String) (s : Snapshot) : Except Failure ValidatorRecord :=
  (s.record accountPrefix).mapError Address.Error.toFailure

/-- Writes the records of all validators but those that have none; counts them. -/
def refreshAll (accountPrefix : String) : Work κ σ Nat := do
  let snapshots ← ask Chain.validators
  let records := snapshots.filterMap fun s => (recordOf accountPrefix s).toOption
  records.forM fun r => commit (Store.upsertValidator · r)
  return records.length

/-- Writes the record of one validator. -/
def refreshOne (accountPrefix operator : String) : Work κ σ ValidatorRecord := do
  let s ← ask (Chain.validator · operator none)
  let r ← ofExcept (recordOf accountPrefix s)
  commit (Store.upsertValidator · r)
  return r

/-- The subscription of an operator, if there is one. -/
def subscription? (operator : String) : Work κ σ (Option Subscription) :=
  fetch (Store.findSubscription · operator)

/-- Adds a fresh subscription unless the operator has one, and tells whether it did. If adding fails
because somebody else was faster, that is as good. -/
def ensureSubscription (operator : String) : Work κ σ Bool := do
  if (← subscription? operator).isSome then return false
  match ← isolate (commit (Store.insertSubscription · (.fresh operator))) with
  | .ok _ => return true
  | .error f => if (← subscription? operator).isSome then return false else fail f

/-- Writes the records of all validators and sees that every record has a subscription; counts the
new subscriptions. -/
def bootstrap (accountPrefix : String) : Work κ σ Nat := do
  let _ ← refreshAll accountPrefix
  let records ← fetch Store.allValidators
  let created ← records.mapM fun r => ensureSubscription r.operator
  return created.countP id

/-- Sets the jailed flag of a record, and tells whether it was not set before. -/
def markJailed (operator : String) : Work κ σ Bool := commit (Store.setJailed · operator true)

/-- Restarts the tracking of an operator that has a subscription. -/
def restart (operator : String) : Work κ σ Unit := do
  match ← subscription? operator with
  | none => return
  | some sub => commit (Store.updateTracking · operator sub.tracking.restart)

/-- Carries out a mutation: the record is written again, a created validator gets a subscription,
and one that left jail starts anew. -/
def apply (accountPrefix : String) (m : Mutation) : Work κ σ ValidatorRecord := do
  let r ← refreshOne accountPrefix m.operator
  match m with
  | .created operator => discard (ensureSubscription operator)
  | .unjailed operator => if r.jailed then pure () else restart operator
  | .edited _ => pure ()
  return r

/-- Carries out the mutations in the transactions of a block, each whether or not others fail; tells
those that did not fail, with the records they gave. -/
def scan (accountPrefix : String) (height : Nat) :
    Work κ σ (List (Mutation × ValidatorRecord)) := do
  let txs ← ask (Chain.transactions · height)
  let applied ← (Mutation.ofTransactions txs accountPrefix).mapM fun m => do
    return (← isolate (apply accountPrefix m)).toOption.map (m, ·)
  return applied.filterMap id

end Liveness.Registry
