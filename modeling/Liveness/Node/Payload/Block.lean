import Liveness.Block
import Liveness.Node.Payload.Basic

/-!
# Payloads of blocks

Blocks with the votes they carry, as a node answers them or announces them over a stream. Votes
stand in one of two lists: an older one in which a vote that was not cast is `null`, and a newer one
in which it has no address or a flag.
-/

namespace Liveness.Payload

/-- The flag of a vote that was not cast. -/
def absentFlag : Nat := 1

/-- A vote that was not cast has no address or says so by its flag. -/
def isAbsent (address : String) (flag : Option Json) : Bool :=
  address == "" ||
    match flag with
    | some (.text s) => s == "BLOCK_ID_FLAG_ABSENT"
    | some v => natural? v == some absentFlag
    | none => false

/-- An entry of the newer list of signatures. -/
def signature (v : Json) : Vote :=
  let address := textField v "validator_address"
  ⟨address, !isAbsent address (v.get? "block_id_flag")⟩

/-- The votes of a commit. The older list has `null` for votes that were not cast. -/
def votes (commit : Json) : List Vote :=
  match (commit.get? "precommits").bind (·.items?) with
  | some items =>
    (items.filter (!·.isNull)).map fun v => ⟨textField v "validator_address", true⟩
  | none =>
    match (commit.get? "signatures").bind (·.items?) with
    | some items => items.map signature
    | none => []

/-- A block. -/
def block (v : Json) : Read Block := do
  let header ← field v "header"
  let height ← naturalField header "height"
  return {
    height := height
    proposer := textField header "proposer_address"
    txs := (((v.at? ["data", "txs"]).bind (·.items?)).map (·.length)).getD 0
    votes := ((v.get? "last_commit").map votes).getD [] }

/-- The answer to a query for a block. -/
def blockResult (result : Json) : Read Block := do
  block (← orDefect (result.get? "block") .noBlockResult)

/-- A message of a block stream. -/
inductive StreamMessage where
  /-- The subscription was accepted. -/
  | accepted
  /-- A new block. -/
  | newBlock (b : Block)
  deriving DecidableEq, Repr

/-- A text frame of a block stream. -/
def streamMessage (text : String) : Read StreamMessage := do
  let result ← rpcResult (← parse text)
  match result with
  | .object [] => return .accepted
  | result =>
    let b ← orDefect (result.at? ["data", "value", "block"]) .noBlock
    return .newBlock (← block b)

/-- The latest height of a status. -/
def statusHeight (result : Json) : Read Nat := do
  let info ← orDefect (result.get? "sync_info") .noSyncInfo
  naturalField info "latest_block_height"

end Liveness.Payload
