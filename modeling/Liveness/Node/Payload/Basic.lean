import Liveness.Json.Value
import Liveness.Node.TransportFailure
import Liveness.Words

/-!
# Payloads

Reading what nodes answer. Nodes write most integers as texts and have changed several shapes over
time; both the older and the newer form is read. A member that is missing where a value has a
natural default takes it; else the payload is malformed, and the failure names what is missing.
-/

namespace Liveness.Payload

/-- What reading yields. -/
abbrev Read (α : Type) := Except TransportFailure α

/-! ## Defects -/

/-- What a payload lacks. -/
inductive Defect where
  /-- A member is missing or `null`. -/
  | missing (name : String)
  /-- A member is no integer. -/
  | notInteger (name : String)
  /-- A member is no amount of tokens. -/
  | notAmount (name : String)
  /-- A member is no decimal. -/
  | notDecimal (name : String)
  /-- A remote call was answered without a result. -/
  | noResult
  /-- A stream event holds no block. -/
  | noBlock
  /-- The answer for a block holds none. -/
  | noBlockResult
  /-- A status does not tell about synchronisation. -/
  | noSyncInfo
  /-- A search for transactions found no list. -/
  | noTransactions
  /-- A validator has no operator address. -/
  | noOperator
  /-- A consensus key has no key. -/
  | noKey
  /-- The validators are no array. -/
  | notValidators
  deriving DecidableEq, Repr

/-- The wording of a defect. -/
def Defect.message : Defect → String
  | .missing name => s!"missing field \x60{name}\x60"
  | .notInteger name => s!"\x60{name}\x60 is not an integer"
  | .notAmount name => s!"\x60{name}\x60 is not an amount"
  | .notDecimal name => s!"\x60{name}\x60 is not a decimal"
  | .noResult => "JSON-RPC body without result"
  | .noBlock => "event without data.value.block"
  | .noBlockResult => "block result without block"
  | .noSyncInfo => "status without sync_info"
  | .noTransactions => "tx_search without txs"
  | .noOperator => "validator without operator_address"
  | .noKey => "consensus_pubkey without key"
  | .notValidators => "validator list is not an array"

/-- The failure of a payload with a defect. -/
def Defect.failure (d : Defect) : TransportFailure := .malformed d.message

/-- A value, or the defect of its absence. -/
def orDefect {α : Type} (value : Option α) (d : Defect) : Read α :=
  match value with
  | some a => .ok a
  | none => .error d.failure

/-- A text that is no document, or a document of another shape than expected. -/
def unreadable : TransportFailure := .deserialization "unexpected document"

/-- The value of a text. -/
def parse (text : String) : Read Json :=
  match Json.parse? text with
  | some v => .ok v
  | none => .error unreadable

/-! ## Envelopes -/

/-- The refusal that an `error` member tells. -/
def refusal (err : Json) : TransportFailure :=
  match err with
  | .text what => .rpc 0 what
  | err =>
    let code :=
      match err.get? "code" with
      | some (.number n) => n.int?.getD 0
      | _ => 0
    let what := ((err.get? "message").bind (·.text?)).getD ""
    let data := ((err.get? "data").bind (·.text?)).getD ""
    .rpc code (if data = "" then what else if what = "" then data else s!"{what}: {data}")

/-- The `error` member of a body that has one other than `null`. -/
def error? (body : Json) : Option Json :=
  (body.get? "error").filter (!·.isNull)

/-- The result of a remote call. -/
def rpcResult (body : Json) : Read Json :=
  match error? body with
  | some err => .error (refusal err)
  | none => orDefect (body.get? "result") .noResult

/-- The result of a REST query, with or without an envelope. -/
def lcdResult (body : Json) : Read Json :=
  match error? body with
  | some err => .error (refusal err)
  | none => .ok ((body.get? "result").getD body)

/-! ## Scalars -/

/-- A natural number below `2 ^ 64`, as a number or as a text. -/
def natural? : Json → Option Nat
  | .number n => n.natural?
  | .text s => Decimal.readNat Bound.word64 s
  | _ => none

/-- An amount of tokens: as a text it may have 128 bits and a fraction, which is dropped. -/
def amount? : Json → Option Nat
  | .number n => n.natural?
  | .text s => Decimal.readNat Bound.word128 (String.ofList (s.toList.takeWhile (· ≠ '.')))
  | _ => none

/-- A decimal, as a number or as a text. -/
def decimal? : Json → Option Float
  | .number n => some n.toFloat
  | .text s => Decimal.readFloat s
  | _ => none

/-- A member other than `null`. -/
def field (v : Json) (name : String) : Read Json :=
  orDefect ((v.get? name).filter (!·.isNull)) (.missing name)

/-- A member that is a natural number. -/
def naturalField (v : Json) (name : String) : Read Nat := do
  orDefect (natural? (← field v name)) (.notInteger name)

/-- A member that is a text, or the empty text. -/
def textField (v : Json) (name : String) : String := ((v.get? name).bind (·.text?)).getD ""

end Liveness.Payload
