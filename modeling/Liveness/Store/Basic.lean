import Liveness.Failure
import Liveness.Subscription
import Liveness.Validator

/-!
# Stores

What the library needs of a store: subscriptions and validator records by operator, and the recent
blocks. Every operation touches one key; there are no transactions over several keys. An operation
may fail, or never come back.
-/

namespace Liveness

/-- Why a computation did not come to its end. -/
inductive Stop where
  /-- It failed. -/
  | failed (f : Failure)
  /-- It waits for ever. -/
  | hung
  deriving DecidableEq, Repr

/-- A store. -/
class Store (σ : Type) where
  /-- The subscription of an operator. -/
  findSubscription (s : σ) (operator : String) : Except Stop (Option Subscription)
  /-- Every subscription, by operator. -/
  allSubscriptions (s : σ) : Except Stop (List Subscription)
  /-- The record of an operator. -/
  findValidator (s : σ) (operator : String) : Except Stop (Option ValidatorRecord)
  /-- A record with this consensus address, whatever the case of its letters. -/
  findByConsensus (s : σ) (address : String) : Except Stop (Option ValidatorRecord)
  /-- Every record, by operator. -/
  allValidators (s : σ) : Except Stop (List ValidatorRecord)
  /-- Every retained block, oldest first. -/
  blocks (s : σ) : Except Stop (List BlockRecord)
  /-- Adds a subscription; fails if its operator has one. -/
  insertSubscription (s : σ) (sub : Subscription) : Except Stop Unit × σ
  /-- Replaces the tracking of a subscription. -/
  updateTracking (s : σ) (operator : String) (tracking : Tracking) : Except Stop Unit × σ
  /-- Replaces the targets of a subscription. -/
  setSubscribers (s : σ) (operator : String) (subscribers : List String) : Except Stop Unit × σ
  /-- Removes a subscription, if there is one. -/
  deleteSubscription (s : σ) (operator : String) : Except Stop Unit × σ
  /-- Writes a record in place of an earlier one of its operator. -/
  upsertValidator (s : σ) (record : ValidatorRecord) : Except Stop Unit × σ
  /-- Sets the jailed flag of a record, and tells whether it changed. -/
  setJailed (s : σ) (operator : String) (jailed : Bool) : Except Stop Bool × σ
  /-- Adds a block and keeps at most `limit` of them. -/
  insertBlock (s : σ) (block : BlockRecord) (limit : Nat) : Except Stop Unit × σ

namespace Store

/-- The failure of an operation on a subscription that does not exist. -/
def noSubscription (operator : String) : Failure := .notFound s!"subscription {operator}"

/-- The failure of an operation on a record that does not exist. -/
def noValidator (operator : String) : Failure := .notFound s!"validator {operator}"

/-- The outcome of a write that keeps the store if it fails. -/
def written {σ : Type} (s : σ) : Except Failure σ → Except Stop Unit × σ
  | .ok s' => (.ok (), s')
  | .error f => (.error (.failed f), s)

/-! ## Requests as values -/

/-- An operation with its arguments. -/
inductive Request where
  /-- See `Store.findSubscription`. -/
  | findSubscription (operator : String)
  /-- See `Store.allSubscriptions`. -/
  | allSubscriptions
  /-- See `Store.insertSubscription`. -/
  | insertSubscription (sub : Subscription)
  /-- See `Store.updateTracking`. -/
  | updateTracking (operator : String) (tracking : Tracking)
  /-- See `Store.setSubscribers`. -/
  | setSubscribers (operator : String) (subscribers : List String)
  /-- See `Store.deleteSubscription`. -/
  | deleteSubscription (operator : String)
  /-- See `Store.findValidator`. -/
  | findValidator (operator : String)
  /-- See `Store.findByConsensus`. -/
  | findByConsensus (address : String)
  /-- See `Store.allValidators`. -/
  | allValidators
  /-- See `Store.upsertValidator`. -/
  | upsertValidator (record : ValidatorRecord)
  /-- See `Store.setJailed`. -/
  | setJailed (operator : String) (jailed : Bool)
  /-- See `Store.insertBlock`. -/
  | insertBlock (block : BlockRecord) (limit : Nat)
  /-- See `Store.blocks`. -/
  | blocks
  deriving DecidableEq, Repr

/-- What an operation answers. -/
inductive Answer where
  /-- It is done. -/
  | done
  /-- A subscription, or none. -/
  | subscription (sub : Option Subscription)
  /-- Subscriptions. -/
  | subscriptions (subs : List Subscription)
  /-- A record, or none. -/
  | validator (record : Option ValidatorRecord)
  /-- Records. -/
  | validators (records : List ValidatorRecord)
  /-- A truth value. -/
  | flag (b : Bool)
  /-- Blocks. -/
  | blocks (blocks : List BlockRecord)
  deriving DecidableEq, Repr

/-- The answer to one request, and the store after it. -/
def perform {σ : Type} [Store σ] (s : σ) : Request → Except Stop Answer × σ
  | .findSubscription operator => ((findSubscription s operator).map .subscription, s)
  | .allSubscriptions => ((allSubscriptions s).map .subscriptions, s)
  | .insertSubscription sub =>
    let (r, s) := insertSubscription s sub
    (r.map fun _ => .done, s)
  | .updateTracking operator tracking =>
    let (r, s) := updateTracking s operator tracking
    (r.map fun _ => .done, s)
  | .setSubscribers operator subscribers =>
    let (r, s) := setSubscribers s operator subscribers
    (r.map fun _ => .done, s)
  | .deleteSubscription operator =>
    let (r, s) := deleteSubscription s operator
    (r.map fun _ => .done, s)
  | .findValidator operator => ((findValidator s operator).map .validator, s)
  | .findByConsensus address => ((findByConsensus s address).map .validator, s)
  | .allValidators => ((allValidators s).map .validators, s)
  | .upsertValidator record =>
    let (r, s) := upsertValidator s record
    (r.map fun _ => .done, s)
  | .setJailed operator jailed =>
    let (r, s) := setJailed s operator jailed
    (r.map .flag, s)
  | .insertBlock block limit =>
    let (r, s) := insertBlock s block limit
    (r.map fun _ => .done, s)
  | .blocks => ((blocks s).map .blocks, s)

/-- The answers to a list of requests, and the store after them. -/
def performAll {σ : Type} [Store σ] (s : σ) : List Request → List (Except Stop Answer) × σ
  | [] => ([], s)
  | r :: rest =>
    let (answer, s) := perform s r
    let (answers, s) := performAll s rest
    (answer :: answers, s)

end Store

/-! ## Keyed rows

Rows with a text as key, at most one for each key, in increasing order of the keys. -/

namespace Rows

variable {α : Type} (key : α → String)

/-- The row of a key. -/
def find? (rows : List α) (k : String) : Option α := rows.find? (key · == k)

/-- The rows after a row was written, in place of an earlier one of its key. -/
def put : List α → α → List α
  | [], a => [a]
  | b :: rest, a =>
    if key a < key b then a :: b :: rest
    else if key a = key b then a :: rest
    else b :: put rest a

/-- The rows after the row of a key was removed. -/
def erase (rows : List α) (k : String) : List α := rows.filter (key · != k)

/-- The keys increase from row to row. -/
def Sorted (rows : List α) : Prop := rows.Pairwise (key · < key ·)

end Rows

end Liveness
