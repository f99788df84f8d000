import Mathlib.Data.Bool.AllAny
import Mathlib.Data.List.Forall2
import Liveness.Mutation
import Liveness.Proofs.Bech32

/-!
# Accounts and operators

An address keeps its words under every human-readable part. So an operator and its account name each
other, and it makes no difference to the mutations of a block which of the two sent a message.
-/

namespace Liveness

open Bech32 Text

variable {a op acct p q t hrp : String} {ws : List Word}

/-! ## Another human-readable part -/

namespace Address

theorem reencode_eq_ok_iff :
    reencode a q = .ok t ↔
      ∃ d, Bech32.decode a = .ok d ∧ IsHrp q ∧ t = written .bech32 (asciiLower q) d.words := by
  rw [reencode]
  cases hread : Bech32.decode a with
  | error e => simp [Except.mapError, bind, Except.bind]
  | ok d =>
    cases hwrite : Bech32.encode q d.words with
    | error e =>
      have hno : ¬ IsHrp q := fun hq => by
        have h := encodeAs_eq_ok_iff (a := written .bech32 (asciiLower q) d.words).mpr ⟨hq, rfl⟩
        rw [← Bech32.encode, hwrite] at h
        cases h
      simp [Except.mapError, bind, Except.bind, hwrite, hno]
    | ok u =>
      obtain ⟨hq, rfl⟩ := encodeAs_eq_ok_iff.mp hwrite
      simp [Except.mapError, bind, Except.bind, hwrite, hq, eq_comm]

theorem reencode_written (hp : IsHrp hrp) (hcase : NoUpper hrp) (v : Variant) (ws : List Word)
    (hq : IsHrp q) : reencode (written v hrp ws) q = .ok (written .bech32 (asciiLower q) ws) :=
  reencode_eq_ok_iff.mpr ⟨_, decode_written hp hcase v ws, hq, rfl⟩

end Address

/-- The prefix leaves room for the operator part. -/
structure IsAccountPrefix (p : String) : Prop where
  /-- It is not empty. -/
  pos : 1 ≤ p.toList.length
  /-- It is not too long. -/
  length_le : p.toList.length ≤ 76
  /-- Letters in lower case and digits. -/
  plain : ∀ c ∈ p.toList, c.isLower = true ∨ c.isDigit = true

namespace IsAccountPrefix

theorem bounds {c : Char} (h : c.isLower = true ∨ c.isDigit = true) :
    c.isUpper = false ∧ 33 ≤ c.toNat ∧ c.toNat ≤ 126 := by
  rw [isLower_iff, Char.isDigit_iff_toNat] at h
  rw [Bool.eq_false_iff, Ne, isUpper_iff]
  have h0 : '0'.toNat = 48 := rfl
  have h9 : '9'.toNat = 57 := rfl
  omega

theorem noUpper (h : IsAccountPrefix p) : NoUpper p := fun c hc => (bounds (h.plain c hc)).1

theorem isHrp (h : IsAccountPrefix p) : IsHrp p where
  ne_nil := List.ne_nil_of_length_pos h.pos
  length_le := Nat.le_trans h.length_le (by decide)
  printable := fun c hc => (bounds (h.plain c hc)).2
  one_case := Or.inl h.noUpper

theorem plain_operatorHrp (h : IsAccountPrefix p) :
    ∀ c ∈ (Address.operatorHrp p).toList, c.isLower = true ∨ c.isDigit = true := by
  intro c hc
  rw [Address.operatorHrp, String.toList_append, List.mem_append] at hc
  rcases hc with hc | hc
  · exact h.plain c hc
  · have hall : ∀ c ∈ "valoper".toList, c.isLower = true :=
      List.all_iff_forall_prop.mp (by decide)
    exact Or.inl (hall c hc)

theorem operatorHrp (h : IsAccountPrefix p) :
    IsHrp (Address.operatorHrp p) ∧ NoUpper (Address.operatorHrp p) := by
  have hplain := h.plain_operatorHrp
  have hlength : (Address.operatorHrp p).toList.length = p.toList.length + 7 := by
    rw [Address.operatorHrp, String.toList_append, List.length_append]
    rfl
  have hcase : NoUpper (Address.operatorHrp p) := fun c hc => (bounds (hplain c hc)).1
  have := h.length_le
  refine ⟨⟨List.ne_nil_of_length_pos (by omega), by omega, ?_, Or.inl hcase⟩, hcase⟩
  exact fun c hc => (bounds (hplain c hc)).2

end IsAccountPrefix

/-! ## Respelling senders -/

/-- One event is the other with its only sender, `op` or `acct`, in either spelling. -/
inductive Event.Respelled (op acct : String) : Event → Event → Prop where
  /-- It is left as it is. -/
  | same (e : Event) : Event.Respelled op acct e e
  /-- The sender is one of the two, and now is one of the two. -/
  | sender (before after : List Attribute) {x y : String}
      (hbefore : ∀ a ∈ before, a.key ≠ "sender") (hafter : ∀ a ∈ after, a.key ≠ "sender")
      (hx : x = op ∨ x = acct) (hy : y = op ∨ y = acct) :
      Event.Respelled op acct ⟨"message", before ++ ⟨"sender", x⟩ :: after⟩
        ⟨"message", before ++ ⟨"sender", y⟩ :: after⟩

/-- The senders of some events are respelled. -/
structure MessageLog.Respelled (op acct : String) (l l' : MessageLog) : Prop where
  /-- The message is the same. -/
  index : l.index = l'.index
  /-- The events one by one. -/
  events : List.Forall₂ (Event.Respelled op acct) l.events l'.events

/-- The senders of some messages are respelled. -/
structure Transaction.Respelled (op acct : String) (tx tx' : Transaction) : Prop where
  /-- The transaction is the same. -/
  hash : tx.hash = tx'.hash
  /-- It came to the same end. -/
  success : tx.success = tx'.success
  /-- The messages one by one. -/
  logs : List.Forall₂ (MessageLog.Respelled op acct) tx.logs tx'.logs

namespace Event.Respelled

variable {e e' : Event}

theorem kind_eq (h : e.Respelled op acct e') : e.kind = e'.kind := by cases h <;> rfl

theorem eq_of_kind_ne (h : e.Respelled op acct e') (hkind : e.kind ≠ "message") : e = e' := by
  cases h with
  | same => rfl
  | sender => exact absurd rfl hkind

/-- Only senders are respelled. -/
theorem values_eq (h : e.Respelled op acct e') {key : String} (hkey : key ≠ "sender") :
    e.values key = e'.values key := by
  cases h with
  | same => rfl
  | sender before after =>
    have hne : ("sender" == key) = false := by simpa using hkey.symm
    simp [values, hne]

end Event.Respelled

theorem values_sender {before after : List Attribute} (hbefore : ∀ a ∈ before, a.key ≠ "sender")
    (hafter : ∀ a ∈ after, a.key ≠ "sender") (kind x : String) :
    Event.values ⟨kind, before ++ ⟨"sender", x⟩ :: after⟩ "sender" = [x] := by
  have hnone : ∀ as : List Attribute, (∀ a ∈ as, a.key ≠ "sender") →
      as.filter (·.key == "sender") = [] := fun as has =>
    List.filter_eq_nil_iff.mpr fun a ha => by simpa using has a ha
  simp [Event.values, List.filter_append, hnone before hbefore, hnone after hafter]

theorem value?_eq_head? (e : Event) (key : String) : e.value? key = (e.values key).head? := by
  rw [Event.value?, Event.values, List.head?_map, List.head?_filter]

/-! ## Mutations -/

namespace Mutation

theorem sender?_of_values {x : String} (hacct : startsWith acct hrp = false)
    (hreencode : Address.reencode acct hrp = .ok op) (hop : startsWith op hrp = true)
    (hx : x = op ∨ x = acct) {message : Event} (hvalues : message.values "sender" = [x]) :
    sender? message hrp = some op := by
  rw [sender?, value?_eq_head?, hvalues]
  rcases hx with rfl | rfl
  · simp [hop]
  · simp [hacct, operatorOf?, hreencode, Except.toOption]

theorem sender?_respelled {e e' : Event} (hacct : startsWith acct hrp = false)
    (hreencode : Address.reencode acct hrp = .ok op) (hop : startsWith op hrp = true)
    (h : e.Respelled op acct e') : sender? e hrp = sender? e' hrp := by
  cases h with
  | same => rfl
  | sender before after hbefore hafter hx hy =>
    rw [sender?_of_values hacct hreencode hop hx (values_sender hbefore hafter ..),
      sender?_of_values hacct hreencode hop hy (values_sender hbefore hafter ..)]

theorem find?_respelled {es es' : List Event} (h : List.Forall₂ (Event.Respelled op acct) es es')
    (kind : String) :
    Option.Rel (Event.Respelled op acct) (es.find? (·.kind == kind))
      (es'.find? (·.kind == kind)) := by
  induction h with
  | nil => exact .none
  | @cons e e' rest rest' hevent _ ih =>
    have hkind := hevent.kind_eq
    by_cases he : e.kind = kind
    · rw [List.find?_cons_of_pos (by simpa using he),
        List.find?_cons_of_pos (by simpa [← hkind] using he)]
      exact .some hevent
    · rw [List.find?_cons_of_neg (by simpa using he),
        List.find?_cons_of_neg (by simpa [← hkind] using he)]
      exact ih

theorem event?_eq_of_respelled {l l' : MessageLog} (h : l.Respelled op acct l') {kind : String}
    (hkind : kind ≠ "message") : l.event? kind = l'.event? kind := by
  have hrel : Option.Rel (Event.Respelled op acct) (l.event? kind) (l'.event? kind) :=
    find?_respelled h.events kind
  have hfound : ∀ e, l.event? kind = some e → e.kind = kind := fun e he => by
    simpa using List.find?_some he
  generalize l.event? kind = found at *
  generalize l'.event? kind = found' at *
  cases hrel with
  | none => rfl
  | some hevent => rw [hevent.eq_of_kind_ne (hfound _ rfl ▸ hkind)]

theorem ofLog?_respelled {l l' : MessageLog} (hacct : startsWith acct hrp = false)
    (hreencode : Address.reencode acct hrp = .ok op) (hop : startsWith op hrp = true)
    (h : l.Respelled op acct l') : ofLog? hrp l = ofLog? hrp l' := by
  have hnamed := event?_eq_of_respelled h (by decide : "create_validator" ≠ "message")
  have hrel : Option.Rel (Event.Respelled op acct) (l.event? "message") (l'.event? "message") :=
    find?_respelled h.events "message"
  rw [ofLog?, ofLog?, hnamed]
  generalize l.event? "message" = message at hrel
  generalize l'.event? "message" = message' at hrel
  cases hrel with
  | none => rfl
  | some hevent =>
    rename_i e e'
    have hactions := hevent.values_eq (by decide : "action" ≠ "sender")
    have hsender := sender?_respelled hacct hreencode hop hevent
    simp only [Option.bind_eq_bind, Option.bind_some, hactions, hsender]

/-- Logs that tell the same in turn tell the same mutations. -/
theorem ofTransactions_respelled {txs txs' : List Transaction}
    (hacct : startsWith acct (Address.operatorHrp p) = false)
    (hreencode : Address.reencode acct (Address.operatorHrp p) = .ok op)
    (hop : startsWith op (Address.operatorHrp p) = true)
    (h : List.Forall₂ (Transaction.Respelled op acct) txs txs') :
    ofTransactions txs p = ofTransactions txs' p := by
  have hlogs : List.Forall₂ (MessageLog.Respelled op acct)
      ((txs.filter (·.success)).flatMap (·.logs)) ((txs'.filter (·.success)).flatMap (·.logs)) :=
    List.rel_flatMap
      (List.rel_filter (fun _ _ htx => iff_of_eq (congrArg (· = true) htx.success)) h)
      fun _ _ htx => htx.logs
  have hsame : ∀ l l', MessageLog.Respelled op acct l l' →
      Option.Rel Eq (ofLog? (Address.operatorHrp p) l) (ofLog? (Address.operatorHrp p) l') := by
    intro l l' hl
    rw [ofLog?_respelled hacct hreencode hop hl]
    cases ofLog? (Address.operatorHrp p) l' with
    | none => exact .none
    | some m => exact .some rfl
  have htold := List.rel_filterMap hsame hlogs
  rw [List.forall₂_eq_eq_eq] at htold
  rw [ofTransactions, ofTransactions, htold]

/-! ## Both names of an operator -/

theorem startsWith_written (v : Variant) (hrp : String) (ws : List Word) :
    startsWith (written v hrp ws) hrp = true := by
  rw [startsWith, written, String.toList_ofList, List.isPrefixOf_iff_prefix]
  exact List.prefix_append ..

/-- The separator of an account stands where the operator part goes on. -/
theorem account_not_startsWith (v : Variant) (p : String) (ws : List Word) :
    startsWith (written v p ws) (Address.operatorHrp p) = false := by
  rw [startsWith, Address.operatorHrp, written, String.toList_ofList, String.toList_append,
    Bool.eq_false_iff, Ne, List.isPrefixOf_iff_prefix, List.prefix_append_right_inj]
  rintro ⟨rest, h⟩
  cases h

/-- An address that is put under another part and back is what it was, and a block tells the same
mutations whether an operator or its account sent a message. -/
theorem operator_or_account :
    (∀ a q d, Bech32.decode a = .ok d → IsHrp q →
      ∃ t, Address.reencode a q = .ok t ∧
        Bech32.decode t = .ok ⟨asciiLower q, d.words, .bech32⟩ ∧
        ∃ back, Address.reencode t d.hrp = .ok back ∧
          Bech32.encode d.hrp d.words = .ok back ∧ NoUpper back ∧
          (NoUpper a → d.variant = .bech32 → back = a)) ∧
      ∀ p ws, IsAccountPrefix p →
        ∃ op acct, Bech32.encode (Address.operatorHrp p) ws = .ok op ∧
          Bech32.encode p ws = .ok acct ∧ Address.selfDelegation op p = .ok acct ∧
          ∀ txs txs', List.Forall₂ (Transaction.Respelled op acct) txs txs' →
            ofTransactions txs p = ofTransactions txs' p := by
  constructor
  · intro a q d hd hq
    obtain ⟨hhrp, hlower⟩ := hrp_of_decode hd
    have hback : asciiLower d.hrp = d.hrp := asciiLower_of_noUpper hlower
    refine ⟨_, Address.reencode_eq_ok_iff.mpr ⟨d, hd, hq, rfl⟩,
      decode_written hq.asciiLower (noUpper_asciiLower q) .., written .bech32 d.hrp d.words, ?_, ?_,
      noUpper_written hlower _ _, ?_⟩
    · rw [Address.reencode_written hq.asciiLower (noUpper_asciiLower q) _ _ hhrp, hback]
    · exact encodeAs_eq_ok_iff.mpr ⟨hhrp, by rw [hback]⟩
    · intro hcase hv
      rw [← hv, ← eq_written_of_decode hd hcase]
  · intro p ws hp
    obtain ⟨hop, hopLower⟩ := hp.operatorHrp
    have hback : asciiLower p = p := asciiLower_of_noUpper hp.noUpper
    have hopBack : asciiLower (Address.operatorHrp p) = Address.operatorHrp p :=
      asciiLower_of_noUpper hopLower
    refine ⟨written .bech32 (Address.operatorHrp p) ws, written .bech32 p ws,
      encodeAs_eq_ok_iff.mpr ⟨hop, by rw [hopBack]⟩,
      encodeAs_eq_ok_iff.mpr ⟨hp.isHrp, by rw [hback]⟩, ?_, ?_⟩
    · rw [Address.selfDelegation, Address.reencode_written hop hopLower _ _ hp.isHrp, hback]
    · intro txs txs' h
      refine ofTransactions_respelled (account_not_startsWith ..) ?_ (startsWith_written ..) h
      rw [Address.reencode_written hp.isHrp hp.noUpper _ _ hop, hopBack]

/-- A message to unjail, sent under a name of the sender. -/
def unjailing (sender : String) : Transaction :=
  ⟨"AB12", true, [⟨0, [⟨"message", [⟨"action", "/cosmos.slashing.v1beta1.MsgUnjail"⟩,
    ⟨"sender", sender⟩]⟩]⟩]⟩

/-- An account unjails its operator. -/
theorem account_unjails :
    let account := "cosmos1v3jkvemgd94xkmrddehhqutjwd682anhgerdcs"
    let operator := "cosmosvaloper1v3jkvemgd94xkmrddehhqutjwd682anhddhc5r"
    Address.reencode account "cosmosvaloper" = .ok operator ∧
      Address.reencode operator "cosmos" = .ok account ∧
      Address.selfDelegation operator "cosmos" = .ok account ∧
      ofTransactions [unjailing account] "cosmos" = ofTransactions [unjailing operator] "cosmos" ∧
      ofTransactions [unjailing account] "cosmos" = [.unjailed operator] := by
  intro account operator
  let words : List Word := [12, 17, 18, 22, 12, 25, 27, 8, 13, 5, 21, 6, 22, 27, 3, 13, 13, 25, 23,
    23, 0, 28, 11, 18, 14, 13, 26, 7, 10, 29, 19, 23]
  have hread : Bech32.decode account = .ok ⟨"cosmos", words, .bech32⟩ := by decide +kernel
  have hprefix : IsAccountPrefix "cosmos" :=
    ⟨by decide, by decide, List.all_iff_forall_prop.mp (by decide)⟩
  have hhrp : IsHrp "cosmosvaloper" := hprefix.operatorHrp.1
  have hoperator : Address.reencode account "cosmosvaloper" = .ok operator := by decide +kernel
  obtain ⟨t, ht, -, back, hback, -, -, hsame⟩ :=
    operator_or_account.1 account "cosmosvaloper" _ hread hhrp
  have hlower : NoUpper account := List.all_iff_forall_prop.mp (by decide)
  rw [hoperator] at ht
  cases ht
  have hop : Bech32.encode (Address.operatorHrp "cosmos") words = .ok operator := by decide +kernel
  have hacct : Bech32.encode "cosmos" words = .ok account := by decide +kernel
  obtain ⟨op, acct, hop', hacct', hself, htold⟩ :=
    operator_or_account.2 "cosmos" words hprefix
  rw [hop] at hop'
  rw [hacct] at hacct'
  cases hop'
  cases hacct'
  refine ⟨hoperator, hsame hlower rfl ▸ hback, hself, htold _ _ ?_, by decide +kernel⟩
  exact .cons ⟨rfl, rfl, .cons ⟨rfl, .cons (.sender [_] [] (by decide) (by decide) (Or.inr rfl)
    (Or.inl rfl)) .nil⟩ .nil⟩ .nil

end Mutation

end Liveness
