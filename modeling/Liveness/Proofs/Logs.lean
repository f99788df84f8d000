import Liveness.Node.Payload.Transaction
import Liveness.Proofs.Columns
import Liveness.Proofs.Scan

/-!
# Two forms of a log

A node tells the events of a transaction message by message, in a text that is a document of its
own, or in one list for all messages. From the text every message tells its mutation. In the list
the events of all messages are one log, and a log tells one mutation: that of its first `message`
event.
-/

namespace Liveness

/-! ## What nodes write -/

namespace Payload

/-- An attribute as it is written. -/
def ofAttribute (a : Attribute) : Json := .object [("key", .text a.key), ("value", .text a.value)]

/-- An event as it is written. -/
def ofEvent (e : Event) : Json :=
  .object [("type", .text e.kind), ("attributes", .array (e.attributes.map ofAttribute))]

/-- The log of a message as it is written. -/
def ofLog (l : MessageLog) : Json :=
  .object [("msg_index", .ofNat l.index), ("events", .array (l.events.map ofEvent))]

/-- The logs of messages with these events, numbered from zero. -/
def numbered (es : List (List Event)) : List MessageLog := es.mapIdx MessageLog.mk

/-- What a node says about the execution of a transaction. -/
def execution (v : Json) : Json := (v.get? "tx_result").getD .null

/-- A transaction that succeeded, with the events of its messages in a text. -/
structure PerMessage (v : Json) (es : List (List Event)) : Prop where
  success : (transaction v).success = true
  log : textField (execution v) "log" = (Json.array ((numbered es).map ofLog)).print

/-- A transaction that succeeded, with the events of its messages in one list. -/
structure Flat (v : Json) (es : List (List Event)) : Prop where
  success : (transaction v).success = true
  log : textField (execution v) "log" = ""
  events : (execution v).get? "events" = some (.array (es.flatten.map ofEvent))

/-! ## Reading it back -/

theorem eventAttribute_ofAttribute (a : Attribute) :
    eventAttribute (ofAttribute a).toDocument = some a := rfl

theorem event_ofEvent (e : Event) : event (ofEvent e).toDocument = some e := by
  have hlist : Json.Reader.list eventAttribute
      (Json.array (e.attributes.map ofAttribute)).toDocument = some e.attributes :=
    Json.list_toDocument fun a _ => eventAttribute_ofAttribute a
  show ((Json.Reader.list eventAttribute
    (Json.array (e.attributes.map ofAttribute)).toDocument).bind
      fun as => some (Event.mk e.kind as)) = some e
  rw [hlist]
  rfl

theorem list_event (es : List Event) :
    Json.Reader.list event (Json.array (es.map ofEvent)).toDocument = some es :=
  Json.list_toDocument fun e _ => event_ofEvent e

theorem messageLog_ofLog {l : MessageLog} (h : l.index < Bound.word32) :
    messageLog (ofLog l).toDocument = some l := by
  show ((if l.index < Bound.word32 then some l.index else none).bind fun index =>
    (Json.Reader.list event (Json.array (l.events.map ofEvent)).toDocument).bind
      fun es => some (MessageLog.mk index es)) = some l
  rw [if_pos h, list_event]
  rfl

theorem plain_ofEvent (e : Event) : (ofEvent e).Plain := by
  have hattributes : Json.PlainItems (e.attributes.map ofAttribute) :=
    Json.plainItems_map fun a _ => by simp [ofAttribute, Json.Plain, Json.PlainMembers]
  simpa [ofEvent, Json.Plain, Json.PlainMembers] using hattributes

theorem plain_ofLog {l : MessageLog} (h : l.index < Bound.word32) : (ofLog l).Plain := by
  have hevents : Json.PlainItems (l.events.map ofEvent) :=
    Json.plainItems_map fun e _ => plain_ofEvent e
  have hindex : l.index < Bound.word64 := h.trans (by decide)
  simpa [ofLog, Json.Plain, Json.PlainMembers, Json.ofNat, hevents] using hindex

/-- Logs that were written to a text are read back. -/
theorem textLogs_print {logs : List MessageLog} (h : ∀ l ∈ logs, l.index < Bound.word32) :
    textLogs (Json.array (logs.map ofLog)).print = logs := by
  have hplain : (Json.array (logs.map ofLog)).Plain :=
    Json.plainItems_map fun l hl => plain_ofLog (h l hl)
  rw [textLogs, Json.parse?_print hplain, Option.bind_some,
    Json.list_toDocument fun l hl => messageLog_ofLog (h l hl)]
  rfl

variable {v : Json} {es : List (List Event)}

theorem index_lt_of_mem_numbered {l : MessageLog} (h : l ∈ numbered es) : l.index < es.length := by
  obtain ⟨i, hi, rfl⟩ := List.mem_mapIdx.mp h
  exact hi

/-- From the text every message has a log of its own. -/
theorem PerMessage.logs (h : PerMessage v es) (hne : es ≠ []) (hlen : es.length ≤ Bound.word32) :
    (transaction v).logs = numbered es := by
  have htext : textLogs (textField (execution v) "log") = numbered es := by
    rw [h.log]
    exact textLogs_print fun l hl => (index_lt_of_mem_numbered hl).trans_le hlen
  show transactionLogs (execution v) = _
  rw [transactionLogs, htext]
  cases es with
  | nil => exact absurd rfl hne
  | cons e rest => rw [numbered, List.mapIdx_cons]

/-- From the list all messages have one log. -/
theorem Flat.logs (h : Flat v es) : (transaction v).logs = [⟨0, es.flatten⟩] := by
  have htext : textLogs (textField (execution v) "log") = [] := by
    rw [h.log]
    rfl
  show transactionLogs (execution v) = _
  rw [transactionLogs, htext]
  simp only [h.events, Option.bind_some, list_event]

end Payload

/-! ## What a log tells -/

namespace Mutation

/-- What a `message` event tells, with the `create_validator` event that goes with it. -/
def told? (hrp : String) (message : Event) (creation : Option Event) : Option Mutation := do
  let kind ← (message.values "action").findSome? Kind.ofAction?
  match kind with
  | .create =>
    ((creation.bind (·.value? "validator")).or (sender? message hrp)).map .created
  | .edit => (sender? message hrp).map .edited
  | .unjail => (sender? message hrp).map .unjailed

/-- A log tells what its first `message` event tells with its first `create_validator` event. -/
theorem ofLog?_eq (hrp : String) (l : MessageLog) :
    ofLog? hrp l = (l.event? "message").bind (told? hrp · (l.event? "create_validator")) := rfl

/-- The number of a message does not change what it tells. -/
theorem filterMap_numbered (hrp : String) (es : List (List Event)) :
    (Payload.numbered es).filterMap (ofLog? hrp) = es.filterMap fun e => ofLog? hrp ⟨0, e⟩ := by
  -- the numbers shift along the list, so the induction is about any way to number
  have hany : ∀ f : Nat → List Event → MessageLog,
      (∀ i e, ofLog? hrp (f i e) = ofLog? hrp ⟨0, e⟩) →
        (es.mapIdx f).filterMap (ofLog? hrp) = es.filterMap fun e => ofLog? hrp ⟨0, e⟩ := by
    induction es with
    | nil => exact fun f hf => rfl
    | cons e rest ih =>
      intro f hf
      rw [List.mapIdx_cons, List.filterMap_cons, List.filterMap_cons, hf, ih _ fun i => hf (i + 1)]
  exact hany MessageLog.mk fun i e => rfl

theorem foldl_insert_of_forall_eq {m : Mutation} {told : List Mutation} (h : ∀ n ∈ told, n = m) :
    told.foldl insert [m] = [m] := by
  induction told with
  | nil => rfl
  | cons n told ih =>
    obtain ⟨rfl, hrest⟩ := List.forall_mem_cons.mp h
    have hinsert : insert [n] n = [n] := by simp [insert]
    rw [List.foldl_cons, hinsert, ih hrest]

/-- The mutations each once are one at most if no other is told. -/
theorem foldl_insert_eq_toList_iff {told : List Mutation} {first : Option Mutation} :
    told.foldl insert [] = first.toList ↔ ∀ m, m ∈ told ↔ m ∈ first := by
  constructor
  · intro h m
    have hmem := mem_foldl_insert (m := m) told []
    rw [h] at hmem
    simpa using hmem.symm
  · intro h
    cases told with
    | nil =>
      cases first with
      | none => rfl
      | some m => exact absurd ((h m).mpr rfl) List.not_mem_nil
    | cons n told =>
      obtain rfl : first = some n := (h n).mp List.mem_cons_self
      have hall : ∀ m ∈ told, m = n := fun m hm =>
        (Option.some.inj ((h m).mp (List.mem_cons_of_mem n hm))).symm
      exact foldl_insert_of_forall_eq hall

theorem ofTransactions_singleton {tx : Transaction} (h : tx.success = true)
    (accountPrefix : String) :
    ofTransactions [tx] accountPrefix =
      (tx.logs.filterMap (ofLog? (Address.operatorHrp accountPrefix))).foldl insert [] := by
  simp [ofTransactions, h]

end Mutation

/-! ## The two forms -/

namespace Payload

theorem transactions_singleton {r v : Json} (h : r.get? "txs" = some (.array [v])) :
    transactions r = .ok [transaction v] := by
  show (orDefect ((r.get? "txs").bind (·.items?)) .noTransactions).bind _ = _
  rw [h]
  rfl

variable {v : Json} {es : List (List Event)}

/-- From the text every message tells its mutation. -/
theorem PerMessage.ofTransactions_eq (h : PerMessage v es) (hne : es ≠ [])
    (hlen : es.length ≤ Bound.word32) (accountPrefix : String) :
    Mutation.ofTransactions [transaction v] accountPrefix =
      (es.filterMap fun e =>
        Mutation.ofLog? (Address.operatorHrp accountPrefix) ⟨0, e⟩).foldl Mutation.insert [] := by
  rw [Mutation.ofTransactions_singleton h.success, h.logs hne hlen, Mutation.filterMap_numbered]

/-- From the list one mutation is told at most. -/
theorem Flat.ofTransactions_eq (h : Flat v es) (accountPrefix : String) :
    Mutation.ofTransactions [transaction v] accountPrefix =
      (Mutation.ofLog? (Address.operatorHrp accountPrefix) ⟨0, es.flatten⟩).toList := by
  rw [Mutation.ofTransactions_singleton h.success, h.logs, List.filterMap_cons]
  cases Mutation.ofLog? (Address.operatorHrp accountPrefix) ⟨0, es.flatten⟩ <;> rfl

/-- Of the two forms of a transaction the one with a text tells what every message tells, and the
one with a list tells one mutation at most: what the `message` event of the first message tells with
the first `create_validator` event of them all. So they tell the same only if the messages together
tell no more and no less than this one mutation, as a single message does. -/
theorem flat_tells_first {e : List Event} {rest : List (List Event)} {message : Event}
    (hmessage : e.find? (·.kind == "message") = some message)
    (hlen : (e :: rest).length ≤ Bound.word32) {r r' v v' : Json}
    (hr : r.get? "txs" = some (.array [v])) (hr' : r'.get? "txs" = some (.array [v']))
    (hv : PerMessage v (e :: rest)) (hv' : Flat v' (e :: rest)) (accountPrefix : String) :
    ∃ tx tx', transactions r = .ok [tx] ∧ transactions r' = .ok [tx'] ∧
      let hrp := Address.operatorHrp accountPrefix
      let told := (e :: rest).filterMap fun es => Mutation.ofLog? hrp ⟨0, es⟩
      let first := Mutation.told? hrp message
        ((e :: rest).flatten.find? (·.kind == "create_validator"))
      Mutation.ofTransactions [tx] accountPrefix = told.foldl Mutation.insert [] ∧
        Mutation.ofTransactions [tx'] accountPrefix = first.toList ∧
        (Mutation.ofTransactions [tx] accountPrefix = Mutation.ofTransactions [tx'] accountPrefix ↔
          ∀ m, m ∈ told ↔ m ∈ first) ∧
        (rest = [] → Mutation.ofTransactions [tx] accountPrefix =
          Mutation.ofTransactions [tx'] accountPrefix) := by
  refine ⟨transaction v, transaction v', transactions_singleton hr, transactions_singleton hr', ?_⟩
  intro hrp told first
  -- the first message comes first in the list, and with it its `message` event
  have hflat : Mutation.ofLog? hrp ⟨0, (e :: rest).flatten⟩ = first := by
    have hfound : MessageLog.event? ⟨0, (e :: rest).flatten⟩ "message" = some message := by
      rw [MessageLog.event?, List.flatten_cons, List.find?_append, hmessage, Option.some_or]
    rw [Mutation.ofLog?_eq, hfound]
    rfl
  have htext : Mutation.ofTransactions [transaction v] accountPrefix =
      told.foldl Mutation.insert [] :=
    hv.ofTransactions_eq (List.cons_ne_nil e rest) hlen accountPrefix
  have hlist : Mutation.ofTransactions [transaction v'] accountPrefix = first.toList := by
    rw [hv'.ofTransactions_eq, hflat]
  refine ⟨htext, hlist, ?_, ?_⟩
  · rw [htext, hlist, Mutation.foldl_insert_eq_toList_iff]
  · rintro rfl
    rw [htext, hlist, Mutation.foldl_insert_eq_toList_iff]
    intro m
    have htold : told = first.toList := by
      rw [← hflat]
      show List.filterMap _ [e] = _
      rw [List.flatten_singleton, List.filterMap_cons]
      cases Mutation.ofLog? hrp ⟨0, e⟩ <;> rfl
    rw [htold, Option.mem_toList, Option.mem_def]

/-! ## Two messages of one transaction -/

/-- A transaction with the events of its messages in a text. -/
def perMessageOf (es : List (List Event)) : Json :=
  .object [("tx_result", .object [("code", .ofNat 0),
    ("log", .text (Json.array ((numbered es).map ofLog)).print)])]

/-- A transaction with the events of its messages in one list. -/
def flatOf (es : List (List Event)) : Json :=
  .object [("tx_result", .object [("code", .ofNat 0), ("log", .text ""),
    ("events", .array (es.flatten.map ofEvent))])]

/-- What a search answers that finds one transaction. -/
def found (v : Json) : Json := .object [("txs", .array [v]), ("total_count", .text "1")]

theorem perMessage_perMessageOf (es : List (List Event)) : PerMessage (perMessageOf es) es :=
  ⟨rfl, rfl⟩

theorem flat_flatOf (es : List (List Event)) : Flat (flatOf es) es := ⟨rfl, rfl, rfl⟩

/-- The event of a message that an operator sends. -/
def sent (action operator : String) : Event :=
  ⟨"message", [⟨"action", action⟩, ⟨"sender", operator⟩]⟩

/-- One validator leaves jail, and another one edits what it says about itself. -/
def unjailAndEdit : List (List Event) :=
  [[sent "unjail" Alpha.operator], [sent "edit_validator" "cosmosvaloper1"]]

theorem flat_tells_first_of_two :
    ∃ tx tx', transactions (found (perMessageOf unjailAndEdit)) = .ok [tx] ∧
      transactions (found (flatOf unjailAndEdit)) = .ok [tx'] ∧
      Mutation.ofTransactions [tx] "cosmos" =
        [.unjailed Alpha.operator, .edited "cosmosvaloper1"] ∧
      Mutation.ofTransactions [tx'] "cosmos" = [.unjailed Alpha.operator] := by
  have hmessage : List.find? (·.kind == "message") [sent "unjail" Alpha.operator] =
      some (sent "unjail" Alpha.operator) := rfl
  have hr : ∀ v, (found v).get? "txs" = some (.array [v]) := fun v => rfl
  obtain ⟨tx, tx', hok, hok', htext, hlist, -⟩ :=
    flat_tells_first hmessage (by decide) (hr (perMessageOf unjailAndEdit))
      (hr (flatOf unjailAndEdit)) (perMessage_perMessageOf _) (flat_flatOf _) "cosmos"
  refine ⟨tx, tx', hok, hok', htext.trans ?_, hlist.trans ?_⟩
  · decide +kernel
  · decide +kernel

/-- The edit is told message by message, and it is not told in the list. -/
theorem edit_untold :
    PerMessage (perMessageOf unjailAndEdit) unjailAndEdit ∧
      Flat (flatOf unjailAndEdit) unjailAndEdit ∧
      (transactions (found (perMessageOf unjailAndEdit))).map (Mutation.ofTransactions · "cosmos") =
        .ok [.unjailed Alpha.operator, .edited "cosmosvaloper1"] ∧
      (transactions (found (flatOf unjailAndEdit))).map (Mutation.ofTransactions · "cosmos") =
        .ok [.unjailed Alpha.operator] := by
  have hlogs := perMessage_perMessageOf unjailAndEdit
  have hlist := flat_flatOf unjailAndEdit
  refine ⟨hlogs, hlist, ?_, ?_⟩
  · rw [transactions_singleton rfl, Except.map,
      hlogs.ofTransactions_eq (by decide) (by decide) "cosmos"]
    decide +kernel
  · rw [transactions_singleton rfl, Except.map, hlist.ofTransactions_eq "cosmos"]
    decide +kernel

end Payload

end Liveness
