import Liveness.Store.Basic

/-!
# Stores with faults

A store in which chosen operations fail, never come back, or lose a race. A fault is set for one
operation and one operator, or for all operators; an operation without an operator stands under `*`.
-/

namespace Liveness

/-- How an operation goes wrong. -/
inductive Fault where
  /-- It fails and does nothing. -/
  | error
  /-- It never comes back. -/
  | hang
  /-- Somebody else adds a fresh subscription of the same operator just before. -/
  | race
  deriving DecidableEq, Repr

/-- A store, and the faults by operation and operator. -/
structure Faulty (σ : Type) where
  /-- The store. -/
  inner : σ
  /-- The faults. -/
  faults : List ((String × String) × Fault)
  deriving DecidableEq, Repr

namespace Faulty

variable {σ : Type}

/-- The operator that stands for all. -/
def anyOperator : String := "*"

/-- Sets a fault, or removes it. -/
def setFault (s : Faulty σ) (operation operator : String) (fault : Option Fault) : Faulty σ :=
  let others := s.faults.filter (·.1 != (operation, operator))
  { s with faults := others ++ (fault.map ((operation, operator), ·)).toList }

/-- The fault of an operation. -/
def fault? (s : Faulty σ) (operation operator : String) : Option Fault :=
  (s.faults.lookup (operation, operator)).or (s.faults.lookup (operation, anyOperator))

/-- Why an operation does not happen, if it does not. -/
def stop? (s : Faulty σ) (operation operator : String) : Option Stop :=
  match s.fault? operation operator with
  | some .error => some (.failed (.storage s!"{operation} failed for {operator}"))
  | some .hang => some .hung
  | _ => none

/-- A read, unless its fault stops it. -/
def reading {α : Type} (s : Faulty σ) (operation operator : String) (f : σ → Except Stop α) :
    Except Stop α :=
  match s.stop? operation operator with
  | some stop => .error stop
  | none => f s.inner

/-- A write, unless its fault stops it. -/
def writing {α : Type} (s : Faulty σ) (operation operator : String)
    (f : σ → Except Stop α × σ) : Except Stop α × Faulty σ :=
  match s.stop? operation operator with
  | some stop => (.error stop, s)
  | none =>
    let (r, inner) := f s.inner
    (r, { s with inner := inner })

/-- The store after a rival added a fresh subscription, if the fault is a race. -/
def rival [Store σ] (s : Faulty σ) (operator : String) : Faulty σ :=
  match s.fault? "insert_subscription" operator with
  | some .race => { s with inner := (Store.insertSubscription s.inner (.fresh operator)).2 }
  | _ => s

end Faulty

instance {σ : Type} [Store σ] : Store (Faulty σ) where
  findSubscription s operator :=
    s.reading "find_subscription" operator (Store.findSubscription · operator)
  allSubscriptions s := s.reading "all_subscriptions" Faulty.anyOperator Store.allSubscriptions
  findValidator s operator := s.reading "find_validator" operator (Store.findValidator · operator)
  findByConsensus s address :=
    s.reading "find_validator_by_hex" address (Store.findByConsensus · address)
  allValidators s := s.reading "all_validators" Faulty.anyOperator Store.allValidators
  blocks s := s.reading "blocks" Faulty.anyOperator Store.blocks
  insertSubscription s sub :=
    (s.rival sub.operator).writing "insert_subscription" sub.operator
      (Store.insertSubscription · sub)
  updateTracking s operator tracking :=
    s.writing "update_tracking" operator (Store.updateTracking · operator tracking)
  setSubscribers s operator subscribers :=
    s.writing "set_subscribers" operator (Store.setSubscribers · operator subscribers)
  deleteSubscription s operator :=
    s.writing "delete_subscription" operator (Store.deleteSubscription · operator)
  upsertValidator s record :=
    s.writing "upsert_validator" record.operator (Store.upsertValidator · record)
  setJailed s operator jailed := s.writing "set_jailed" operator (Store.setJailed · operator jailed)
  insertBlock s block limit :=
    s.writing "insert_block" Faulty.anyOperator (Store.insertBlock · block limit)

end Liveness
