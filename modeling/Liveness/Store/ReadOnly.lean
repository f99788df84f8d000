import Liveness.Store.Opening

/-!
# Stores that are only read

Every write is refused, also one that would change nothing.
-/

namespace Liveness

/-- A store that is only read. -/
structure ReadOnly (σ : Type) where
  /-- The store. -/
  inner : σ
  deriving DecidableEq, Repr

/-- The outcome of a write. -/
def ReadOnly.refuse {σ α : Type} (s : ReadOnly σ) : Except Stop α × ReadOnly σ :=
  (.error (.failed Refusal.readOnly.failure), s)

instance {σ : Type} [Store σ] : Store (ReadOnly σ) where
  findSubscription s := Store.findSubscription s.inner
  allSubscriptions s := Store.allSubscriptions s.inner
  findValidator s := Store.findValidator s.inner
  findByConsensus s := Store.findByConsensus s.inner
  allValidators s := Store.allValidators s.inner
  blocks s := Store.blocks s.inner
  insertSubscription s _ := s.refuse
  updateTracking s _ _ := s.refuse
  setSubscribers s _ _ := s.refuse
  deleteSubscription s _ := s.refuse
  upsertValidator s _ := s.refuse
  setJailed s _ _ := s.refuse
  insertBlock s _ _ := s.refuse

end Liveness
