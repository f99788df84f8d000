import Mathlib.Tactic.SplitIfs
import Liveness.Node.Payload.Block
import Liveness.Node.Payload.Transaction
import Liveness.Node.Payload.Validator
import Liveness.Proofs.JsonText

/-!
# Two spellings of an integer

Nodes write an integer as a number or as the text of its decimal digits. The readers of payloads
take both for the same, at every place where they read an integer, with two exceptions: the flag of
a vote that was not cast is known only as a number, since among texts only its word is, and a bond
status beyond one byte is cut to its low byte as a number, but is no status as a text.
-/

namespace Liveness

/-! ## Reading digits -/

namespace Decimal

theorem digitsValue_toDigits (n : Nat) : digitsValue (Nat.toDigits 10 n) = n := by
  rw [digitsValue, ← Nat.ofDigitChars_eq_foldl]
  exact Nat.ofDigitChars_toDigits (by decide) (by decide)

theorem areDigits_toDigits (n : Nat) : areDigits (Nat.toDigits 10 n) = true := by
  have hall : (Nat.toDigits 10 n).all Char.isDigit = true :=
    List.all_eq_true.mpr (Json.isDigit_toDigits n)
  simp [areDigits, hall]

/-- Digits have no sign in front of them. -/
theorem dropPlus_of_isDigit {cs : List Char} (h : ∀ c ∈ cs, c.isDigit = true) :
    dropPlus cs = cs := by
  unfold dropPlus
  split
  · exact absurd (h '+' List.mem_cons_self) (by decide)
  · rfl

theorem readNat_ofList_toDigits (bound n : Nat) :
    readNat bound (String.ofList (Nat.toDigits 10 n)) = if n < bound then some n else none := by
  simp [readNat, dropPlus_of_isDigit (Json.isDigit_toDigits n), areDigits_toDigits,
    digitsValue_toDigits]

theorem toString_eq_ofList (n : Nat) : toString n = String.ofList (Nat.toDigits 10 n) := by
  rw [Nat.toString_eq_repr, ← Nat.toList_repr, String.ofList_toList]

/-- The text of the digits of a number is no text with another character. -/
theorem toString_ne (n : Nat) {s : String} (h : ∃ c ∈ s.toList, c.isDigit = false) :
    toString n ≠ s := by
  obtain ⟨c, hmem, hc⟩ := h
  rintro rfl
  rw [toString_eq_ofList, String.toList_ofList] at hmem
  rw [Json.isDigit_toDigits n c hmem] at hc
  cases hc

end Decimal

/-! ## Values with one integer spelled in another way -/

namespace Json

/-- A step into a value. -/
inductive Step where
  /-- To the member of a name. -/
  | member (name : String)
  /-- To the item at a position. -/
  | item (index : Nat)

/-- The value at the end of a path. -/
def follow? (v : Json) : List Step → Option Json
  | [] => some v
  | .member name :: path => (v.get? name).bind (·.follow? path)
  | .item i :: path => (v.items?.bind (·[i]?)).bind (·.follow? path)

/-- Two values that are the same but for what stands at the end of a path: there one has a number
and the other the text of its digits. -/
inductive Respelled (n : Nat) : List Step → Json → Json → Prop where
  /-- The values are the number and the text. -/
  | here : Respelled n [] (.ofNat n) (.text (toString n))
  /-- They differ in the member of a name. -/
  | member {name : String} {path : List Step} {v w : Json} (before after : List (String × Json))
      (hnew : ∀ m ∈ before, m.1 ≠ name) (h : Respelled n path v w) :
      Respelled n (.member name :: path) (.object (before ++ (name, v) :: after))
        (.object (before ++ (name, w) :: after))
  /-- They differ in the item at a position. -/
  | item {path : List Step} {v w : Json} (before after : List Json) (h : Respelled n path v w) :
      Respelled n (.item before.length :: path) (.array (before ++ v :: after))
        (.array (before ++ w :: after))

variable {n i : Nat} {name other : String} {path : List Step} {v w : Json}

theorem Respelled.isNull_eq_false (h : Respelled n path v w) :
    v.isNull = false ∧ w.isNull = false := by
  cases h <;> exact ⟨rfl, rfl⟩

theorem lookup_append_of_ne {before rest : List (String × Json)}
    (h : ∀ m ∈ before, m.1 ≠ name) : (before ++ rest).lookup name = rest.lookup name := by
  induction before with
  | nil => rfl
  | cons m before ih =>
    obtain ⟨hm, hbefore⟩ := List.forall_mem_cons.mp h
    rw [List.cons_append, List.lookup_cons, beq_false_of_ne (Ne.symm hm)]
    exact ih hbefore

/-- The member on the path differs in turn. -/
theorem Respelled.exists_get? (h : Respelled n (.member name :: path) v w) :
    ∃ v' w', v.get? name = some v' ∧ w.get? name = some w' ∧ Respelled n path v' w' := by
  cases h with
  | member before after hnew h =>
    refine ⟨_, _, ?_, ?_, h⟩ <;> rw [get?, lookup_append_of_ne hnew, List.lookup_cons_self]

/-- The members off the path are the same. -/
theorem Respelled.get?_eq (h : Respelled n (.member name :: path) v w) (hne : other ≠ name) :
    w.get? other = v.get? other := by
  cases h with
  | member before after hnew h =>
    simp [get?, List.lookup_append, List.lookup_cons, beq_false_of_ne hne]

theorem Respelled.textField_eq (h : Respelled n (.member name :: path) v w)
    (hne : other ≠ name) : Payload.textField w other = Payload.textField v other := by
  rw [Payload.textField, Payload.textField, h.get?_eq hne]

end Json

/-! ## Readers -/

namespace Payload

open Json (Respelled)
open Json.Step (member item)

variable {n i : Nat} {name other : String} {path : List Json.Step} {v w : Json} {α : Type}

@[simp]
theorem orDefect_some (a : α) (d : Defect) : orDefect (some a) d = .ok a := rfl

theorem natural?_text (hn : n < Bound.word64) : natural? (.text (toString n)) = some n := by
  rw [natural?, Decimal.toString_eq_ofList, Decimal.readNat_ofList_toDigits, if_pos hn]

/-- Digits have no fraction, so the whole text is the amount. -/
theorem amount?_text (hn : n < Bound.word64) : amount? (.text (toString n)) = some n := by
  have hwhole : (Nat.toDigits 10 n).takeWhile (· ≠ '.') = Nat.toDigits 10 n := by
    refine List.takeWhile_eq_self_iff.mpr fun c hc => decide_eq_true ?_
    rintro rfl
    exact absurd (Json.isDigit_toDigits n '.' hc) (by decide)
  have hbound : n < Bound.word128 := Nat.lt_trans hn (by decide)
  rw [amount?, Decimal.toString_eq_ofList, String.toList_ofList, hwhole,
    Decimal.readNat_ofList_toDigits, if_pos hbound]

theorem field_eq (h : Respelled n (member name :: path) v w) (hne : other ≠ name) :
    field w other = field v other := by
  rw [field, field, h.get?_eq hne]

/-- The member on the path is there in both values. -/
theorem exists_field (h : Respelled n (member name :: path) v w) :
    ∃ v' w', field v name = .ok v' ∧ field w name = .ok w' ∧ Respelled n path v' w' := by
  obtain ⟨v', w', hv, hw, h'⟩ := h.exists_get?
  refine ⟨v', w', ?_, ?_, h'⟩
  · simp [field, hv, Option.filter_some, h'.isNull_eq_false.1]
  · simp [field, hw, Option.filter_some, h'.isNull_eq_false.2]

/-- What does not tell the two spellings of the number apart reads the same from every member. -/
theorem field_bind_eq (read : Json → Read α) (h : Respelled n [member name] v w)
    (hread : read (.text (toString n)) = read (.ofNat n)) (other : String) :
    (field w other >>= read) = (field v other >>= read) := by
  by_cases hother : other = name
  · subst hother
    obtain ⟨v', w', hv, hw, h'⟩ := exists_field h
    cases h'
    rw [hv, hw]
    exact hread
  · rw [field_eq h hother]

theorem naturalField_eq (hn : n < Bound.word64) (h : Respelled n [member name] v w)
    (other : String) : naturalField w other = naturalField v other :=
  field_bind_eq (fun x => orDefect (natural? x) (.notInteger other)) h
    (by rw [natural?_text hn]; rfl) other

/-- The amount of tokens of a member. -/
theorem amountField_eq (hn : n < Bound.word64) (h : Respelled n [member name] v w)
    (other : String) :
    (field w other >>= fun x => orDefect (amount? x) (.notAmount other)) =
      (field v other >>= fun x => orDefect (amount? x) (.notAmount other)) := by
  have hread : amount? (.text (toString n)) = amount? (.ofNat n) := amount?_text hn
  exact field_bind_eq (fun x => orDefect (amount? x) (.notAmount other)) h (by rw [hread]) other

/-- The values differ in a member, which may stand in an envelope: so do their contents, unless
neither content has the member. -/
theorem content_respelled {envelope : String} (hne : envelope ≠ name)
    (h : Respelled n [member name] v w ∨ Respelled n [member envelope, member name] v w) :
    (w.get? envelope).getD w = (v.get? envelope).getD v ∨
      Respelled n [member name] ((v.get? envelope).getD v) ((w.get? envelope).getD w) := by
  rcases h with h | h
  · rw [h.get?_eq hne]
    cases v.get? envelope with
    | none => exact .inr h
    | some content => exact .inl rfl
  · obtain ⟨v', w', hv, hw, h'⟩ := h.exists_get?
    rw [hv, hw]
    exact .inr h'

/-! ## Blocks -/

theorem block_eq_of_height (hn : n < Bound.word64)
    (h : Respelled n [member "header", member "height"] v w) : block v = block w := by
  obtain ⟨header, header', hv, hw, h'⟩ := exists_field h
  have hproposer := h'.textField_eq (by decide : "proposer_address" ≠ "height")
  have hdata := h.get?_eq (by decide : "data" ≠ "header")
  have hcommit := h.get?_eq (by decide : "last_commit" ≠ "header")
  rw [block, block, hv, hw]
  simp only [bind, Except.bind, naturalField_eq hn h', hproposer, Json.at?, hdata, hcommit]

theorem statusHeight_eq (hn : n < Bound.word64)
    (h : Respelled n [member "sync_info", member "latest_block_height"] v w) :
    statusHeight v = statusHeight w := by
  obtain ⟨info, info', hv, hw, h'⟩ := h.exists_get?
  rw [statusHeight, statusHeight, hv, hw]
  exact (naturalField_eq hn h' "latest_block_height").symm

/-! ## Votes -/

theorem isAbsent_number (n : Nat) (address : String) :
    isAbsent address (some (.ofNat n)) = (address == "" || n == absentFlag) := by
  simp [isAbsent, Json.ofNat, natural?, Json.Number.natural?]

/-- No digits are the word of a vote that was not cast. -/
theorem isAbsent_text (n : Nat) (address : String) :
    isAbsent address (some (.text (toString n))) = (address == "") := by
  have hne : toString n ≠ "BLOCK_ID_FLAG_ABSENT" := Decimal.toString_ne n ⟨'B', by decide⟩
  simp only [isAbsent, beq_false_of_ne hne, Bool.or_false]

/-- The spelling of a flag matters for the vote if the flag says that a vote with an address was
not cast. -/
theorem signature_eq_iff (h : Respelled n [member "block_id_flag"] v w) :
    signature v = signature w ↔ n ≠ absentFlag ∨ textField v "validator_address" = "" := by
  obtain ⟨flag, flag', hv, hw, h'⟩ := h.exists_get?
  cases h'
  rw [signature, signature, hv, hw, h.textField_eq (by decide), isAbsent_number, isAbsent_text]
  by_cases haddress : textField v "validator_address" = "" <;> simp [haddress]

theorem votes_eq_iff
    (h : Respelled n [member "signatures", item i, member "block_id_flag"] v w) :
    votes v = votes w ↔ n ≠ absentFlag ∨
      ((v.get? "precommits").bind (·.items?)).isSome = true ∨
      ∃ entry, v.follow? [member "signatures", item i] = some entry ∧
        textField entry "validator_address" = "" := by
  obtain ⟨items, items', hv, hw, h'⟩ := h.exists_get?
  rw [votes, votes, h.get?_eq (by decide)]
  cases (v.get? "precommits").bind (·.items?) with
  | some older => simp
  | none =>
    cases h' with
    | item before after h' =>
      simp [hv, hw, Json.items?, Json.follow?, signature_eq_iff h']

/-- At a flag the blocks are the same but for the votes of their commits. -/
theorem block_eq_iff_of_flag
    (h : Respelled n [member "last_commit", member "signatures", item i, member "block_id_flag"]
      v w) :
    block v = block w ↔ n ≠ absentFlag ∨ (∃ failure, block v = .error failure) ∨
      ((v.at? ["last_commit", "precommits"]).bind (·.items?)).isSome = true ∨
      ∃ entry, v.follow? [member "last_commit", member "signatures", item i] = some entry ∧
        textField entry "validator_address" = "" := by
  obtain ⟨commit, commit', hv, hw, h'⟩ := h.exists_get?
  have hheader : field w "header" = field v "header" := field_eq h (by decide)
  have hdata := h.get?_eq (by decide : "data" ≠ "last_commit")
  have hprecommits : v.at? ["last_commit", "precommits"] = commit.get? "precommits" := by
    simp [Json.at?, hv]
  have hentry : v.follow? [member "last_commit", member "signatures", item i] =
      commit.follow? [member "signatures", item i] := by
    simp [Json.follow?, hv]
  rw [hprecommits, hentry]
  rw [block, block, hheader, hv, hw]
  simp only [bind, Except.bind, Json.at?, hdata, pure, Except.pure]
  cases field v "header" with
  | error failure => simp
  | ok header =>
    dsimp only
    cases naturalField header "height" with
    | error failure => simp
    | ok height => simp [votes_eq_iff h']

/-! ## Transactions -/

theorem transactions_eq (hn : n < Bound.word64)
    (h : Respelled n [member "txs", item i, member "tx_result", member "code"] v w) :
    transactions v = transactions w := by
  obtain ⟨items, items', hv, hw, hitems⟩ := h.exists_get?
  cases hitems with
  | item before after htx =>
    rename_i tx tx'
    obtain ⟨result, result', hresult, hresult', hcode⟩ := htx.exists_get?
    obtain ⟨code, code', hnumber, htext, hhere⟩ := hcode.exists_get?
    cases hhere
    have hlogs : transactionLogs result' = transactionLogs result := by
      rw [transactionLogs, transactionLogs, hcode.textField_eq (by decide),
        hcode.get?_eq (by decide)]
    have htransaction : transaction tx' = transaction tx := by
      simp only [transaction, hresult, hresult', hnumber, htext, Option.getD_some,
        Option.bind_some, natural?_text hn, hlogs, htx.textField_eq (by decide : "hash" ≠ _)]
      rfl
    simp [transactions, hv, hw, Json.items?, htransaction]

/-! ## Validators -/

theorem status_number (n : Nat) : status (some (.ofNat n)) = n % 256 := rfl

/-- No digits are the word of a status, and they must fit one byte. -/
theorem status_text (n : Nat) :
    status (some (.text (toString n))) = if n < 256 then n else 0 := by
  have hunbonded : toString n ≠ "BOND_STATUS_UNBONDED" := Decimal.toString_ne n ⟨'B', by decide⟩
  have hunbonding : toString n ≠ "BOND_STATUS_UNBONDING" :=
    Decimal.toString_ne n ⟨'B', by decide⟩
  have hbonded : toString n ≠ "BOND_STATUS_BONDED" := Decimal.toString_ne n ⟨'B', by decide⟩
  have hread : Decimal.readNat 256 (toString n) = if n < 256 then some n else none := by
    rw [Decimal.toString_eq_ofList, Decimal.readNat_ofList_toDigits]
  simp only [status, hread]
  split_ifs <;> rfl

/-- Validators that agree on all members but the status and the tokens agree on the rest. -/
theorem snapshot_eq_map
    (h : ∀ other, other ≠ "status" → other ≠ "tokens" → w.get? other = v.get? other) :
    snapshot w = (snapshot v).map fun s =>
      { s with
        status := status (w.get? "status")
        tokens := ((w.get? "tokens").bind amount?).getD 0 } := by
  have hoperator : textField w "operator_address" = textField v "operator_address" := by
    rw [textField, textField, h _ (by decide) (by decide)]
  have hkey : field w "consensus_pubkey" = field v "consensus_pubkey" := by
    rw [field, field, h _ (by decide) (by decide)]
  simp only [snapshot, hoperator, hkey, h "description" (by decide) (by decide),
    h "jailed" (by decide) (by decide), h "commission" (by decide) (by decide)]
  by_cases hempty : textField v "operator_address" = ""
  · rw [if_pos hempty, if_pos hempty]
    rfl
  rw [if_neg hempty, if_neg hempty]
  simp only [bind, Except.bind]
  cases field v "consensus_pubkey" with
  | error failure => rfl
  | ok entry =>
    dsimp only
    cases consensusKey entry with
    | error failure => rfl
    | ok key =>
      cases v.get? "description" with
      | none => rfl
      | some d =>
        dsimp only
        cases Description.read d.toDocument <;> rfl

/-- The status and the tokens of a validator are those that its members tell. -/
theorem of_snapshot {s : Snapshot} (h : snapshot v = .ok s) :
    s.status = status (v.get? "status") ∧ s.tokens = ((v.get? "tokens").bind amount?).getD 0 := by
  have hself := snapshot_eq_map (v := v) fun _ _ _ => rfl
  rw [h] at hself
  have hs := Except.ok.inj hself
  exact ⟨congrArg (·.status) hs, congrArg (·.tokens) hs⟩

theorem snapshot_eq_of_tokens (hn : n < Bound.word64) (h : Respelled n [member "tokens"] v w) :
    snapshot v = snapshot w := by
  obtain ⟨tokens, tokens', hv, hw, hhere⟩ := h.exists_get?
  cases hhere
  rw [snapshot_eq_map (fun _ _ hne => h.get?_eq hne), h.get?_eq (by decide), hw]
  cases hsnapshot : snapshot v with
  | error failure => rfl
  | ok s =>
    obtain ⟨hstatus, htokens⟩ := of_snapshot hsnapshot
    rw [hv] at htokens
    rw [Except.map, Option.bind_some, amount?_text hn, ← hstatus]
    exact congrArg (fun tokens => Except.ok { s with tokens := tokens }) htokens

theorem snapshot_eq_iff_of_status (h : Respelled n [member "status"] v w) :
    snapshot v = snapshot w ↔
      n < 256 ∨ n % 256 = 0 ∨ ∃ failure, snapshot v = .error failure := by
  obtain ⟨entry, entry', hv, hw, hhere⟩ := h.exists_get?
  cases hhere
  rw [snapshot_eq_map (fun _ hne _ => h.get?_eq hne), h.get?_eq (by decide : "tokens" ≠ _), hw,
    status_text]
  cases hsnapshot : snapshot v with
  | error failure => simp [Except.map]
  | ok s =>
    obtain ⟨hstatus, htokens⟩ := of_snapshot hsnapshot
    rw [hv, status_number] at hstatus
    have heq : Except.ok s = (Except.ok { s with status := if n < 256 then n else 0 } : Read _) ↔
        s.status = if n < 256 then n else 0 :=
      ⟨fun hs => congrArg Snapshot.status (Except.ok.inj hs), fun hs => by rw [← hs]⟩
    rw [Except.map, ← htokens, heq, hstatus]
    split_ifs with hsmall
    · simp [hsmall, Nat.mod_eq_of_lt hsmall]
    · simp [hsmall]

/-! ## Totals and parameters -/

theorem stakingPool_eq (hn : n < Bound.word64)
    (hname : name = "bonded_tokens" ∨ name = "not_bonded_tokens")
    (h : Respelled n [member name] v w ∨ Respelled n [member "pool", member name] v w) :
    stakingPool v = stakingPool w := by
  have hne : "pool" ≠ name := by rcases hname with rfl | rfl <;> decide
  rw [stakingPool, stakingPool]
  rcases content_respelled hne h with heq | hcontent
  · rw [heq]
  · simp only [amountField_eq hn hcontent]

theorem slashingParams_eq (hn : n < Bound.word64)
    (h : Respelled n [member "signed_blocks_window"] v w ∨
      Respelled n [member "params", member "signed_blocks_window"] v w) :
    slashingParams v = slashingParams w := by
  rw [slashingParams, slashingParams]
  rcases content_respelled (by decide) h with heq | hcontent
  · rw [heq]
  · have hshare := field_eq hcontent (by decide : "min_signed_per_window" ≠ _)
    simp only [naturalField_eq hn hcontent, hshare]

/-! ## All readers -/

/-- Of the integers that payloads hold only two kinds are told apart by their spelling: the flag of
a vote that has an address and was not cast, in a commit of the newer form, and a bond status beyond
one byte whose low byte is not zero. -/
theorem respelled_iff (hn : n < Bound.word64) (v w : Json) :
    (Respelled n [member "header", member "height"] v w → block v = block w) ∧
    (∀ i, Respelled n
        [member "last_commit", member "signatures", item i, member "block_id_flag"] v w →
      (block v = block w ↔ n ≠ absentFlag ∨ (∃ failure, block v = .error failure) ∨
        ((v.at? ["last_commit", "precommits"]).bind (·.items?)).isSome = true ∨
        ∃ entry, v.follow? [member "last_commit", member "signatures", item i] = some entry ∧
          textField entry "validator_address" = "")) ∧
    (Respelled n [member "sync_info", member "latest_block_height"] v w →
      statusHeight v = statusHeight w) ∧
    (Respelled n [member "status"] v w →
      (snapshot v = snapshot w ↔
        n < 256 ∨ n % 256 = 0 ∨ ∃ failure, snapshot v = .error failure)) ∧
    (Respelled n [member "tokens"] v w → snapshot v = snapshot w) ∧
    (∀ name, name = "bonded_tokens" ∨ name = "not_bonded_tokens" →
      Respelled n [member name] v w ∨ Respelled n [member "pool", member name] v w →
      stakingPool v = stakingPool w) ∧
    (Respelled n [member "signed_blocks_window"] v w ∨
        Respelled n [member "params", member "signed_blocks_window"] v w →
      slashingParams v = slashingParams w) ∧
    (∀ i, Respelled n [member "txs", item i, member "tx_result", member "code"] v w →
      transactions v = transactions w) :=
  ⟨block_eq_of_height hn, fun _ => block_eq_iff_of_flag, statusHeight_eq hn,
    snapshot_eq_iff_of_status, snapshot_eq_of_tokens hn, fun _ => stakingPool_eq hn,
    slashingParams_eq hn, fun _ => transactions_eq hn⟩

/-- A block with one vote of this flag. -/
def flagged (flag : Json) : Json :=
  .object [("header", .object [("height", .ofNat 1)]),
    ("last_commit", .object [("signatures", .array [.object
      [("validator_address", .text "AA"), ("block_id_flag", flag)]])])]

/-- A validator of this status. -/
def standing (status : Json) : Json :=
  .object [("operator_address", .text "operator"), ("consensus_pubkey", .text "key"),
    ("status", status)]

theorem respelled_flagged (n : Nat) : Respelled n
    [member "last_commit", member "signatures", item 0, member "block_id_flag"]
    (flagged (.ofNat n)) (flagged (.text (toString n))) :=
  .member [_] [] (by decide) (.member [] [] nofun (.item [] [] (.member [_] [] (by decide) .here)))

theorem respelled_standing (n : Nat) :
    Respelled n [member "status"] (standing (.ofNat n)) (standing (.text (toString n))) :=
  .member [_, _] [] (by decide) .here

/-- The flag of a vote for the block and the status of a validator without a bond may be spelled in
either way. -/
theorem respelled_two : 2 < Bound.word64 ∧
    block (flagged (.ofNat 2)) = block (flagged (.text "2")) ∧
    snapshot (standing (.ofNat 2)) = snapshot (standing (.text "2")) := by
  have hn : 2 < Bound.word64 := by decide
  obtain ⟨-, hflag, -⟩ := respelled_iff hn (flagged (.ofNat 2)) (flagged (.text "2"))
  obtain ⟨-, -, -, hstatus, -⟩ :=
    respelled_iff hn (standing (.ofNat 2)) (standing (.text "2"))
  exact ⟨hn, (hflag 0 (respelled_flagged 2)).mpr (.inl (by decide)),
    (hstatus (respelled_standing 2)).mpr (.inl (by decide))⟩

/-- A vote that was not cast counts as one that was if its flag is spelled as a text, and a status
of 257 is that of a validator without a bond only if it is spelled as a number. -/
theorem respelled_ne :
    (Respelled 1 [member "last_commit", member "signatures", item 0, member "block_id_flag"]
        (flagged (.ofNat 1)) (flagged (.text "1")) ∧
      block (flagged (.ofNat 1)) = .ok ⟨1, "", 0, [⟨"AA", false⟩]⟩ ∧
      block (flagged (.text "1")) = .ok ⟨1, "", 0, [⟨"AA", true⟩]⟩) ∧
    Respelled 257 [member "status"] (standing (.ofNat 257)) (standing (.text "257")) ∧
      (snapshot (standing (.ofNat 257))).map (·.status) = .ok 1 ∧
      (snapshot (standing (.text "257"))).map (·.status) = .ok 0 :=
  ⟨⟨respelled_flagged 1, rfl, rfl⟩, respelled_standing 257, rfl, rfl⟩

end Payload

end Liveness
