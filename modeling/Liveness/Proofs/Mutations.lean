import Mathlib.Data.List.Nodup
import Liveness.Mutation

/-!
# What transactions tell

The logs of successful transactions are read one after another, and each tells one mutation at most.
No log is read in the light of another one: what a list of transactions tells is put together from
what its parts tell, every mutation once and where it comes first.
-/

namespace Liveness

/-- A successful transaction has a log that tells the mutation. -/
def Transaction.Tells (tx : Transaction) (hrp : String) (m : Mutation) : Prop :=
  tx.success = true ∧ ∃ log ∈ tx.logs, Mutation.ofLog? hrp log = some m

/-- The logs of the transactions that were successful. -/
def Transaction.settledLogs (txs : List Transaction) : List MessageLog :=
  (txs.filter (·.success)).flatMap (·.logs)

namespace Mutation

variable {hrp accountPrefix : String} {log : MessageLog} {message : Event} {m n : Mutation}
  {ms told : List Mutation} {txs : List Transaction}

/-! ## Each mutation once -/

theorem insert_of_mem (h : n ∈ ms) : insert ms n = ms := by
  have hin : ms.contains n = true := by simpa using h
  rw [insert, if_pos hin]

theorem insert_of_not_mem (h : n ∉ ms) : insert ms n = ms ++ [n] := by
  have hout : ¬ ms.contains n = true := by simpa using h
  rw [insert, if_neg hout]

theorem mem_insert : m ∈ insert ms n ↔ m ∈ ms ∨ m = n := by
  by_cases hn : n ∈ ms
  · rw [insert_of_mem hn]
    constructor
    · intro h
      exact Or.inl h
    · rintro (h | rfl)
      · exact h
      · exact hn
  · rw [insert_of_not_mem hn, List.mem_append, List.mem_singleton]

theorem mem_foldl_insert (told ms : List Mutation) :
    m ∈ told.foldl insert ms ↔ m ∈ ms ∨ m ∈ told := by
  induction told generalizing ms with
  | nil => simp
  | cons n told ih => rw [List.foldl_cons, ih, mem_insert, List.mem_cons, or_assoc]

theorem nodup_foldl_insert (h : ms.Nodup) : (told.foldl insert ms).Nodup := by
  induction told generalizing ms with
  | nil => exact h
  | cons n told ih =>
    rw [List.foldl_cons]
    by_cases hn : n ∈ ms
    · rw [insert_of_mem hn]
      exact ih h
    · rw [insert_of_not_mem hn]
      exact ih (List.nodup_append.mpr ⟨h, List.nodup_singleton n, by
        intro a ha b hb
        rw [List.mem_singleton.mp hb]
        rintro rfl
        exact hn ha⟩)

/-- What is told later adds what was not told before. -/
theorem foldl_insert_eq_append (told ms : List Mutation) :
    told.foldl insert ms = ms ++ (told.foldl insert []).filter (· ∉ ms) := by
  -- the mutations known before grow along the list, so the induction is about any of them
  induction told generalizing ms with
  | nil => simp
  | cons n told ih =>
    have hfirst : (n :: told).foldl insert [] =
        n :: (told.foldl insert []).filter (· ∉ [n]) := by
      rw [List.foldl_cons, insert_of_not_mem List.not_mem_nil, ih]
      rfl
    rw [hfirst, List.foldl_cons]
    by_cases hn : n ∈ ms
    · rw [insert_of_mem hn, ih, List.filter_cons_of_neg (by simpa using hn), List.filter_filter]
      have hsame : ∀ m ∈ told.foldl insert [],
          decide (m ∉ ms) = (decide (m ∉ ms) && decide (m ∉ [n])) := by
        intro m _
        by_cases hm : m = n
        · simp [hm, hn]
        · simp [hm]
      rw [List.filter_congr hsame]
    · rw [insert_of_not_mem hn, ih, List.filter_cons_of_pos (by simpa using hn),
        List.filter_filter, List.append_assoc, List.singleton_append]
      have hsame : ∀ m ∈ told.foldl insert [],
          decide (m ∉ ms ++ [n]) = (decide (m ∉ ms) && decide (m ∉ [n])) := by
        intro m _
        simp
      rw [List.filter_congr hsame]

/-! ## Where a mutation comes from -/

/-- The kind of a mutation. -/
def kind : Mutation → Kind
  | .created _ => .create
  | .edited _ => .edit
  | .unjailed _ => .unjail

/-- The mutation of a kind that happened to an operator. -/
def ofKind (op : String) : Kind → Mutation
  | .create => .created op
  | .edit => .edited op
  | .unjail => .unjailed op

theorem ofKind_eq_iff {op : String} {k : Kind} : ofKind op k = m ↔ k = m.kind ∧ op = m.operator := by
  cases k <;> cases m <;> simp [ofKind, kind, operator]

/-- The operator that the first `create_validator` event names. -/
def creator? (log : MessageLog) : Option String :=
  (log.event? "create_validator").bind (·.value? "validator")

/-- A log with this `message` event names the operator of a mutation of this kind. Only a creation
is named by its own event, and where it is, the senders do not count. -/
inductive Names (hrp : String) (log : MessageLog) (message : Event) : Kind → String → Prop where
  /-- The `create_validator` event says who was created. -/
  | created {op : String} (hcreator : creator? log = some op) : Names hrp log message .create op
  /-- The first sender that is given as an operator. -/
  | operator {k : Kind} {op : String} (hk : k = .create → creator? log = none)
      (hfirst : (message.values "sender").find? (startsWith · hrp) = some op) :
      Names hrp log message k op
  /-- The first sender, put under the operator part, where none is given as an operator. -/
  | account {k : Kind} {sender op : String} (hk : k = .create → creator? log = none)
      (hnone : ∀ s ∈ message.values "sender", startsWith s hrp = false)
      (hfirst : message.value? "sender" = some sender)
      (hop : Address.reencode sender hrp = .ok op) : Names hrp log message k op

/-- A log tells a mutation: of the actions of its first `message` event the first that is of some
kind is of the kind of the mutation, and it names its operator. -/
def ToldBy (hrp : String) (log : MessageLog) (m : Mutation) : Prop :=
  ∃ message, log.event? "message" = some message ∧
    (message.values "action").findSome? Kind.ofAction? = some m.kind ∧
    Names hrp log message m.kind m.operator

theorem value?_mem_values {e : Event} {key value : String} (h : e.value? key = some value) :
    value ∈ e.values key := by
  obtain ⟨a, ha, rfl⟩ := Option.map_eq_some_iff.mp h
  have hmem : a ∈ e.attributes := List.mem_of_find?_eq_some ha
  have hkey := List.find?_some ha
  exact List.mem_map.mpr ⟨a, List.mem_filter.mpr ⟨hmem, hkey⟩, rfl⟩

/-- The sender of a message is an operator that sent it, or else the operator of the account that
sent it first. -/
theorem sender?_eq_some_iff {op : String} :
    sender? message hrp = some op ↔
      (message.values "sender").find? (startsWith · hrp) = some op ∨
        (∀ s ∈ message.values "sender", startsWith s hrp = false) ∧
          ∃ s, message.value? "sender" = some s ∧ Address.reencode s hrp = .ok op := by
  rw [sender?]
  cases hfind : (message.values "sender").find? (startsWith · hrp) with
  | some first =>
    have hfirst := List.find?_some hfind
    have hmem : first ∈ message.values "sender" := List.mem_of_find?_eq_some hfind
    rw [Option.some_or]
    constructor
    · intro h
      exact Or.inl h
    · rintro (h | ⟨hnone, -⟩)
      · exact h
      · rw [hnone first hmem] at hfirst
        cases hfirst
  | none =>
    have hnone : ∀ s ∈ message.values "sender", startsWith s hrp = false := by
      simpa using List.find?_eq_none.mp hfind
    rw [Option.none_or, Option.bind_eq_some_iff]
    constructor
    · rintro ⟨s, hs, hop⟩
      rw [operatorOf?, hnone s (value?_mem_values hs), if_neg Bool.false_ne_true] at hop
      refine Or.inr ⟨hnone, s, hs, ?_⟩
      cases hread : Address.reencode s hrp with
      | error e =>
        rw [hread] at hop
        cases hop
      | ok t =>
        rw [hread] at hop
        cases hop
        rfl
    · rintro (h | ⟨-, s, hs, hop⟩)
      · cases h
      · refine ⟨s, hs, ?_⟩
        rw [operatorOf?, hnone s (value?_mem_values hs), if_neg Bool.false_ne_true, hop]
        rfl

/-- The operator of a mutation of some kind: who the creation names, or else who sent it. -/
def named? (hrp : String) (log : MessageLog) (message : Event) : Kind → Option String
  | .create => (creator? log).or (sender? message hrp)
  | .edit | .unjail => sender? message hrp

theorem named?_of_unnamed {k : Kind} (hk : k = .create → creator? log = none) :
    named? hrp log message k = sender? message hrp := by
  cases k with
  | create => rw [named?, hk rfl, Option.none_or]
  | edit => rfl
  | unjail => rfl

theorem names_iff {k : Kind} {op : String} :
    Names hrp log message k op ↔ named? hrp log message k = some op := by
  constructor
  · intro h
    cases h with
    | created hcreator => rw [named?, hcreator, Option.some_or]
    | operator hk hfirst =>
      rw [named?_of_unnamed hk]
      exact sender?_eq_some_iff.mpr (Or.inl hfirst)
    | account hk hnone hfirst hop =>
      rw [named?_of_unnamed hk]
      exact sender?_eq_some_iff.mpr (Or.inr ⟨hnone, _, hfirst, hop⟩)
  · intro h
    by_cases hk : k = .create → creator? log = none
    · rw [named?_of_unnamed hk] at h
      rcases sender?_eq_some_iff.mp h with hfirst | ⟨hnone, s, hfirst, hop⟩
      · exact .operator hk hfirst
      · exact .account hk hnone hfirst hop
    · obtain ⟨rfl, hcreator⟩ := Classical.not_imp.mp hk
      obtain ⟨creator, hcreator⟩ := Option.ne_none_iff_exists'.mp hcreator
      rw [named?, hcreator, Option.some_or] at h
      exact .created (hcreator.trans h)

theorem ofLog?_eq_bind (hrp : String) (log : MessageLog) :
    ofLog? hrp log = (log.event? "message").bind fun message =>
      ((message.values "action").findSome? Kind.ofAction?).bind fun k =>
        (named? hrp log message k).map (ofKind · k) := by
  rw [ofLog?]
  cases log.event? "message" with
  | none => rfl
  | some message =>
    cases hkind : (message.values "action").findSome? Kind.ofAction? with
    | none => simp [hkind]
    | some k => cases k <;> simp [hkind, named?, ofKind, creator?]

theorem ofLog?_eq_some_iff : ofLog? hrp log = some m ↔ ToldBy hrp log m := by
  simp only [ofLog?_eq_bind, Option.bind_eq_some_iff, Option.map_eq_some_iff, ofKind_eq_iff, ToldBy,
    names_iff]
  constructor
  · rintro ⟨message, hmessage, k, hk, op, hop, rfl, rfl⟩
    exact ⟨message, hmessage, hk, hop⟩
  · rintro ⟨message, hmessage, hk, hop⟩
    exact ⟨message, hmessage, _, hk, _, hop, rfl, rfl⟩

/-! ## Lists of transactions -/

theorem ofTransactions_eq (txs : List Transaction) (accountPrefix : String) :
    ofTransactions txs accountPrefix =
      ((Transaction.settledLogs txs).filterMap
        (ofLog? (Address.operatorHrp accountPrefix))).foldl insert [] := rfl

theorem mem_ofTransactions :
    m ∈ ofTransactions txs accountPrefix ↔
      ∃ tx ∈ txs, tx.Tells (Address.operatorHrp accountPrefix) m := by
  simp only [ofTransactions_eq, mem_foldl_insert, List.not_mem_nil, false_or, List.mem_filterMap,
    Transaction.settledLogs, List.mem_flatMap, List.mem_filter, Transaction.Tells]
  constructor
  · rintro ⟨log, ⟨tx, ⟨htx, hok⟩, hlog⟩, hm⟩
    exact ⟨tx, htx, hok, log, hlog, hm⟩
  · rintro ⟨tx, htx, hok, log, hlog, hm⟩
    exact ⟨log, ⟨tx, ⟨htx, hok⟩, hlog⟩, hm⟩

theorem settledLogs_append (xs ys : List Transaction) :
    Transaction.settledLogs (xs ++ ys) =
      Transaction.settledLogs xs ++ Transaction.settledLogs ys := by
  rw [Transaction.settledLogs, List.filter_append, List.flatMap_append]
  rfl

/-- A transaction that failed has no logs that count. -/
theorem settledLogs_of_failed {tx : Transaction} (h : tx.success = false)
    (before after : List Transaction) :
    Transaction.settledLogs (before ++ tx :: after) = Transaction.settledLogs (before ++ after) := by
  have hfailed : ¬ tx.success = true := by simp [h]
  rw [settledLogs_append, settledLogs_append, Transaction.settledLogs, Transaction.settledLogs,
    List.filter_cons_of_neg hfailed]
  rfl

/-- Transactions tell what the logs of the successful ones tell, in order and each mutation once:
of two lists in a row the second adds what the first does not tell; nothing is told twice; only the
logs in a row count, so neither do transactions that failed nor does it matter which of the others a
log belongs to; and a mutation is told exactly if one of the logs tells it. -/
theorem told_once_in_order (accountPrefix : String) :
    (∀ xs ys, ofTransactions (xs ++ ys) accountPrefix =
      ofTransactions xs accountPrefix ++
        (ofTransactions ys accountPrefix).filter (· ∉ ofTransactions xs accountPrefix)) ∧
      (∀ txs, (ofTransactions txs accountPrefix).Nodup) ∧
      (∀ xs ys, Transaction.settledLogs xs = Transaction.settledLogs ys →
        ofTransactions xs accountPrefix = ofTransactions ys accountPrefix) ∧
      (∀ before tx after, tx.success = false →
        ofTransactions (before ++ tx :: after) accountPrefix =
          ofTransactions (before ++ after) accountPrefix) ∧
      ∀ txs m, m ∈ ofTransactions txs accountPrefix ↔
        ∃ log ∈ Transaction.settledLogs txs,
          ToldBy (Address.operatorHrp accountPrefix) log m := by
  have hlogs : ∀ xs ys, Transaction.settledLogs xs = Transaction.settledLogs ys →
      ofTransactions xs accountPrefix = ofTransactions ys accountPrefix := by
    intro xs ys h
    rw [ofTransactions_eq, ofTransactions_eq, h]
  refine ⟨?_, ?_, hlogs, ?_, ?_⟩
  · intro xs ys
    rw [ofTransactions_eq, settledLogs_append, List.filterMap_append, List.foldl_append,
      foldl_insert_eq_append, ← ofTransactions_eq, ← ofTransactions_eq]
  · intro txs
    rw [ofTransactions_eq]
    exact nodup_foldl_insert List.nodup_nil
  · intro before tx after hfailed
    exact hlogs _ _ (settledLogs_of_failed hfailed before after)
  · intro txs m
    rw [ofTransactions_eq, mem_foldl_insert, List.mem_filterMap]
    simp only [List.not_mem_nil, false_or, ofLog?_eq_some_iff]

/-- The log of a message with an action and a sender, behind some other events. -/
def sentLog (others : List Event) (action sender : String) : MessageLog :=
  ⟨0, others ++ [⟨"message", [⟨"action", action⟩, ⟨"sender", sender⟩]⟩]⟩

/-- A creation that names its operator, an edit by an operator and an unjailing by an account are
told in this order. The edit is told once, and what failed is not told. -/
theorem told_once_in_order_of_three :
    let operator := "cosmosvaloper1qyqszqgpqyqszqgpqyqszqgpqyqszqgph84tp0"
    let account := "cosmos1qyqszqgpqyqszqgpqyqszqgpqyqszqgpjnp7du"
    let creation := sentLog [⟨"create_validator", [⟨"validator", "cosmosvaloper1a"⟩]⟩]
      "/cosmos.staking.v1beta1.MsgCreateValidator" account
    let xs : List Transaction := [⟨"A", true, [creation, sentLog [] "edit_validator" operator]⟩]
    let failed : Transaction := ⟨"B", false, [sentLog [] "edit_validator" "cosmosvaloper1b"]⟩
    let settled : Transaction := ⟨"C", true,
      [sentLog [] "/cosmos.staking.v1beta1.MsgEditValidator" operator,
        sentLog [] "/cosmos.slashing.v1beta1.MsgUnjail" account]⟩
    let ms : List Mutation := [.created "cosmosvaloper1a", .edited operator, .unjailed operator]
    ofTransactions (xs ++ [failed, settled]) "cosmos" = ms ∧
      ∀ m ∈ ms, ∃ log ∈ Transaction.settledLogs (xs ++ [failed, settled]),
        ToldBy "cosmosvaloper" log m := by
  intro operator account creation xs failed settled ms
  obtain ⟨happend, -, -, hfailed, htold⟩ := told_once_in_order "cosmos"
  have hfirst : ofTransactions xs "cosmos" = [.created "cosmosvaloper1a", .edited operator] := by
    decide +kernel
  have hsecond : ofTransactions [failed, settled] "cosmos" =
      [.edited operator, .unjailed operator] := by
    have hsettled : ofTransactions [settled] "cosmos" = [.edited operator, .unjailed operator] := by
      decide +kernel
    exact (hfailed [] failed [settled] rfl).trans hsettled
  have hall : ofTransactions (xs ++ [failed, settled]) "cosmos" = ms := by
    rw [happend, hfirst, hsecond]
    decide
  refine ⟨hall, fun m hm => (htold _ m).mp ?_⟩
  rwa [hall]

end Mutation

end Liveness
