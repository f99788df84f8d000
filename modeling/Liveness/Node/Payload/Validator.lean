import Liveness.Node.Payload.Basic
import Liveness.Validator

/-!
# Payloads of validators

Validators, the totals of staked tokens and the parameters for slashing, each with or without an
envelope.
-/

namespace Liveness.Payload

/-- A consensus key. -/
def consensusKey (v : Json) : Read ConsensusKey :=
  match v with
  | .text s => .ok (.bech32 s)
  | v => do
    let key := ((v.get? "key").or (v.get? "value")).bind (·.text?)
    return .base64 (← orDefect key .noKey)

/-- A bond status, as a word, a number or a text; other numbers keep their low byte. -/
def status (v : Option Json) : Nat :=
  match v with
  | some (.text s) =>
    match s with
    | "BOND_STATUS_UNBONDED" => 1
    | "BOND_STATUS_UNBONDING" => 2
    | "BOND_STATUS_BONDED" => 3
    | s => (Decimal.readNat 256 s).getD 0
  | some v => (natural? v).getD 0 % 256
  | none => 0

/-- A commission, with or without an envelope for its rates. -/
def commission (v : Json) : Commission :=
  let rates := (v.get? "commission_rates").getD v
  let rate := fun name => ((rates.get? name).bind decimal?).getD 0.0
  ⟨rate "rate", rate "max_rate", rate "max_change_rate"⟩

/-- A validator. -/
def snapshot (v : Json) : Read Snapshot := do
  let operator := textField v "operator_address"
  if operator = "" then throw Defect.noOperator.failure
  let key ← consensusKey (← field v "consensus_pubkey")
  let description ←
    match v.get? "description" with
    | none => pure Description.blank
    | some d =>
      match Description.read d.toDocument with
      | some d => pure d
      | none => throw unreadable
  return {
    operator := operator
    key := key
    jailed := ((v.get? "jailed").bind (·.bool?)).getD false
    status := status (v.get? "status")
    tokens := ((v.get? "tokens").bind amount?).getD 0
    description := description
    commission := commission ((v.get? "commission").getD .null) }

/-- A list of validators, with or without an envelope. Those that cannot be read are left out. -/
def snapshots (result : Json) : Read (List Snapshot) := do
  let items ← orDefect (result.items?.or ((result.get? "validators").bind (·.items?)))
    .notValidators
  return items.filterMap fun v => (snapshot v).toOption

/-- The totals of staked tokens, with or without an envelope. -/
def stakingPool (result : Json) : Read StakingPool := do
  let pool := (result.get? "pool").getD result
  let tokens := fun name => do orDefect (amount? (← field pool name)) (.notAmount name)
  return ⟨← tokens "bonded_tokens", ← tokens "not_bonded_tokens"⟩

/-- The parameters for slashing, with or without an envelope. -/
def slashingParams (result : Json) : Read SlashingParams := do
  let params := (result.get? "params").getD result
  let share ← orDefect (decimal? (← field params "min_signed_per_window"))
    (.notDecimal "min_signed_per_window")
  return ⟨← naturalField params "signed_blocks_window", share⟩

end Liveness.Payload
