import Liveness.Text.Case

/-!
# Blocks

A block as it is announced, with the votes of the commit it carries, and the record that is kept of
it.
-/

namespace Liveness

/-- One entry of a commit. -/
structure Vote where
  /-- The consensus address of the voter. -/
  address : String
  /-- The vote was cast. -/
  present : Bool
  deriving DecidableEq, Repr

/-- What is kept of a block. -/
structure BlockRecord where
  /-- The height. -/
  height : Nat
  /-- The consensus address of the proposer. -/
  proposer : String
  /-- The number of transactions. -/
  txs : Nat
  deriving DecidableEq, Repr

/-- A new block. -/
structure Block where
  /-- The height. -/
  height : Nat
  /-- The consensus address of the proposer. -/
  proposer : String
  /-- The number of transactions. -/
  txs : Nat
  /-- The votes of the commit. -/
  votes : List Vote
  deriving DecidableEq, Repr

namespace Block

/-- A vote of this consensus address is present, whatever the case of its letters. -/
def signedBy (b : Block) (address : String) : Bool :=
  b.votes.any fun v => v.present && Text.caseless v.address address

/-- The record of the block; the proposer is put in upper case. -/
def record (b : Block) : BlockRecord := ⟨b.height, Text.upper b.proposer, b.txs⟩

theorem signedBy_iff {b : Block} {address : String} :
    b.signedBy address = true ↔
      ∃ v ∈ b.votes, v.present = true ∧ Text.asciiLower v.address = Text.asciiLower address := by
  simp [signedBy]

end Block

end Liveness
