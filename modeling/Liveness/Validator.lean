import Liveness.Address
import Liveness.Json.Shape

/-!
# Validators

A validator as the chain reports it at some height, the record of its identity that is kept, and the
totals and parameters of the chain that its weight and its alerts are measured by.
-/

namespace Liveness

/-- What a validator publishes about itself. -/
structure Description where
  /-- The name. -/
  moniker : String
  /-- The identity. -/
  identity : String
  /-- The web site. -/
  website : String
  /-- Anything else. -/
  details : String
  deriving DecidableEq, Repr

/-- The description without any text. -/
def Description.blank : Description := ⟨"", "", "", ""⟩

/-- Reads a description; texts that are missing are empty. -/
def Description.read : Json.Reader Description := fun d => do
  let fs ← Json.fields ["moniker", "identity", "website", "details"] d
  let text := fun name => fs.optional name "" Json.Reader.text
  return ⟨← text "moniker", ← text "identity", ← text "website", ← text "details"⟩

/-- The commission of a validator as fractions of one. -/
structure Commission where
  /-- The rate. -/
  rate : Float
  /-- The greatest rate there may ever be. -/
  maxRate : Float
  /-- The greatest change of the rate in a day. -/
  maxChangeRate : Float
  deriving DecidableEq, Repr

/-- A validator as the chain reports it. -/
structure Snapshot where
  /-- The operator address. -/
  operator : String
  /-- The consensus key. -/
  key : ConsensusKey
  /-- The validator is jailed. -/
  jailed : Bool
  /-- The bond status: 1 unbonded, 2 unbonding, 3 bonded. -/
  status : Nat
  /-- The bonded tokens, in base units. -/
  tokens : Nat
  /-- What it publishes. -/
  description : Description
  /-- The commission. -/
  commission : Commission
  deriving DecidableEq, Repr

/-- The identity of a validator as it is kept. -/
structure ValidatorRecord where
  /-- The operator address. -/
  operator : String
  /-- The consensus address. -/
  consensus : String
  /-- The account that owns the operator. -/
  selfDelegation : String
  /-- The consensus key as the chain reported it. -/
  key : String
  /-- The validator is jailed. -/
  jailed : Bool
  /-- What it publishes. -/
  description : Description
  deriving DecidableEq, Repr

/-- The name to show: the moniker, or the operator address if the moniker is blank. -/
def ValidatorRecord.displayName (r : ValidatorRecord) : String :=
  if Text.isBlankText r.description.moniker then r.operator else r.description.moniker

/-- The record of a reported validator. -/
def Snapshot.record (s : Snapshot) (accountPrefix : String) :
    Except Address.Error ValidatorRecord := do
  let consensus ← Address.consensus s.key
  let selfDelegation ← Address.selfDelegation s.operator accountPrefix
  return {
    operator := s.operator
    consensus := consensus
    selfDelegation := selfDelegation
    key := s.key.text
    jailed := s.jailed
    description := s.description }

/-- The totals of staked tokens. -/
structure StakingPool where
  /-- Bonded tokens. -/
  bonded : Nat
  /-- Tokens that are staked and not bonded. -/
  notBonded : Nat
  deriving DecidableEq, Repr

/-- The share of the bonded tokens in percent. -/
def StakingPool.votingPower (pool : StakingPool) (tokens : Nat) : Float :=
  if pool.bonded = 0 then 0.0 else Float.ofNat tokens / Float.ofNat pool.bonded * 100.0

/-- The parameters for slashing a validator that is down. -/
structure SlashingParams where
  /-- The blocks in which attendance is counted. -/
  signedBlocksWindow : Nat
  /-- The share of them that must be signed. -/
  minSignedPerWindow : Float
  deriving DecidableEq, Repr

end Liveness
