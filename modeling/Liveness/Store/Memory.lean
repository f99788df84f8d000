import Liveness.Store.Basic

/-!
# The memory store

Subscriptions and records as rows sorted by operator, and blocks in the order they came, of which
the oldest are dropped.
-/

namespace Liveness

/-- A store that lasts as long as the program. -/
structure Memory where
  /-- The subscriptions by operator. -/
  subscriptions : List Subscription
  /-- The records by operator. -/
  validators : List ValidatorRecord
  /-- The blocks, oldest first. -/
  blocks : List BlockRecord
  deriving DecidableEq, Repr

namespace Memory

/-- The store that holds nothing. -/
def empty : Memory := ⟨[], [], []⟩

/-- The subscription of an operator. -/
def subscription? (m : Memory) (operator : String) : Option Subscription :=
  Rows.find? Subscription.operator m.subscriptions operator

/-- The record of an operator. -/
def validator? (m : Memory) (operator : String) : Option ValidatorRecord :=
  Rows.find? ValidatorRecord.operator m.validators operator

/-- A record with this consensus address. -/
def byConsensus? (m : Memory) (address : String) : Option ValidatorRecord :=
  m.validators.find? fun r => Text.caseless r.consensus address

/-- The store with a subscription written. -/
def putSubscription (m : Memory) (sub : Subscription) : Memory :=
  { m with subscriptions := Rows.put Subscription.operator m.subscriptions sub }

/-- The store with a record written. -/
def putValidator (m : Memory) (record : ValidatorRecord) : Memory :=
  { m with validators := Rows.put ValidatorRecord.operator m.validators record }

/-- Adds a subscription. -/
def insertSubscription (m : Memory) (sub : Subscription) : Except Failure Memory :=
  if (m.subscription? sub.operator).isSome then
    .error (.storage s!"subscription for {sub.operator} already exists")
  else .ok (m.putSubscription sub)

/-- Changes a subscription that exists. -/
def changeSubscription (m : Memory) (operator : String) (f : Subscription → Subscription) :
    Except Failure Memory :=
  match m.subscription? operator with
  | none => .error (Store.noSubscription operator)
  | some sub => .ok (m.putSubscription (f sub))

/-- Replaces the tracking of a subscription. -/
def updateTracking (m : Memory) (operator : String) (tracking : Tracking) :
    Except Failure Memory :=
  m.changeSubscription operator fun sub => { sub with tracking := tracking }

/-- Replaces the targets of a subscription. -/
def setSubscribers (m : Memory) (operator : String) (subscribers : List String) :
    Except Failure Memory :=
  m.changeSubscription operator fun sub => { sub with subscribers := subscribers }

/-- Removes a subscription. -/
def deleteSubscription (m : Memory) (operator : String) : Memory :=
  { m with subscriptions := Rows.erase Subscription.operator m.subscriptions operator }

/-- Sets the jailed flag of a record that exists, and tells whether it changed. -/
def setJailed (m : Memory) (operator : String) (jailed : Bool) : Except Failure (Bool × Memory) :=
  match m.validator? operator with
  | none => .error (Store.noValidator operator)
  | some record =>
    if record.jailed = jailed then .ok (false, m)
    else .ok (true, m.putValidator { record with jailed := jailed })

/-- Adds a block and drops the oldest beyond `limit`. -/
def insertBlock (m : Memory) (block : BlockRecord) (limit : Nat) : Memory :=
  { m with blocks := History.keepLast limit (m.blocks ++ [block]) }

end Memory

instance : Store Memory where
  findSubscription m operator := .ok (m.subscription? operator)
  allSubscriptions m := .ok m.subscriptions
  findValidator m operator := .ok (m.validator? operator)
  findByConsensus m address := .ok (m.byConsensus? address)
  allValidators m := .ok m.validators
  blocks m := .ok m.blocks
  insertSubscription m sub := Store.written m (m.insertSubscription sub)
  updateTracking m operator tracking := Store.written m (m.updateTracking operator tracking)
  setSubscribers m operator subscribers := Store.written m (m.setSubscribers operator subscribers)
  deleteSubscription m operator := (.ok (), m.deleteSubscription operator)
  upsertValidator m record := (.ok (), m.putValidator record)
  setJailed m operator jailed :=
    match m.setJailed operator jailed with
    | .ok (changed, m') => (.ok changed, m')
    | .error f => (.error (.failed f), m)
  insertBlock m block limit := (.ok (), m.insertBlock block limit)

end Liveness
