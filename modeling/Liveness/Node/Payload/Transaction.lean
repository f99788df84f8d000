import Liveness.Json.Shape
import Liveness.Node.Payload.Basic
import Liveness.Transaction
import Liveness.Words

/-!
# Payloads of transactions

Transactions as a search answers them. The logs of the messages stand in a text that is a document
of its own; where it holds none, the events of the whole transaction count as one log.
-/

namespace Liveness.Payload

/-- An attribute of an event. -/
def eventAttribute : Json.Reader Attribute := fun d => do
  let fs ← Json.fields ["key", "value"] d
  return ⟨← fs.required "key" Json.Reader.text, ← fs.optional "value" "" Json.Reader.text⟩

/-- An event. -/
def event : Json.Reader Event := fun d => do
  let fs ← Json.fields ["type", "attributes"] d
  return ⟨← fs.required "type" Json.Reader.text,
    ← fs.optional "attributes" [] (Json.Reader.list eventAttribute)⟩

/-- The log of a message. -/
def messageLog : Json.Reader MessageLog := fun d => do
  let fs ← Json.fields ["msg_index", "events"] d
  return ⟨← fs.optional "msg_index" 0 (Json.Reader.natural Bound.word32),
    ← fs.optional "events" [] (Json.Reader.list event)⟩

/-- The logs that the log text of a transaction holds; the text of a failed one holds none. -/
def textLogs (log : String) : List MessageLog :=
  ((Json.Document.parse? log).bind (Json.Reader.list messageLog)).getD []

/-- The logs of a transaction: those of its text, or else one log with all its events. -/
def transactionLogs (result : Json) : List MessageLog :=
  match textLogs (textField result "log") with
  | [] =>
    match (result.get? "events").bind fun v => Json.Reader.list event v.toDocument with
    | some events => [⟨0, events⟩]
    | none => []
  | logs => logs

/-- A transaction. -/
def transaction (v : Json) : Transaction :=
  let result := (v.get? "tx_result").getD .null
  let code := ((result.get? "code").bind natural?).getD 0
  ⟨textField v "hash", code == 0, transactionLogs result⟩

/-- The answer to a search for transactions. -/
def transactions (result : Json) : Read (List Transaction) := do
  let items ← orDefect ((result.get? "txs").bind (·.items?)) .noTransactions
  return items.map transaction

end Liveness.Payload
