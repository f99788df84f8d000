import Liveness.Failure
import Liveness.Transaction
import Liveness.Validator

/-!
# Chains

What the library asks about a chain. A chain may answer the same query differently each time; what
it answers next is its state.
-/

namespace Liveness

/-- What answers queries about a chain. -/
class Chain (κ : Type) where
  /-- All validators. -/
  validators (c : κ) : Except Failure (List Snapshot) × κ
  /-- One validator, now or at a height. -/
  validator (c : κ) (operator : String) (height : Option Nat) : Except Failure Snapshot × κ
  /-- The totals of staked tokens, now or at a height. -/
  stakingPool (c : κ) (height : Option Nat) : Except Failure StakingPool × κ
  /-- The parameters for slashing. -/
  slashingParams (c : κ) : Except Failure SlashingParams × κ
  /-- The transactions of a block. -/
  transactions (c : κ) (height : Nat) : Except Failure (List Transaction) × κ

end Liveness
