import Mathlib.Data.List.Forall2
import Liveness.Node.Payload.Block
import Liveness.Proofs.Jailing

/-!
# Two forms of a commit

Nodes list the votes of a block in an older or in a newer form. Both forms of the same votes are
read as blocks that agree on who signed, and the engine does the same at either of them.
-/

namespace Liveness

/-! ## The engine at blocks that agree -/

/-- The blocks agree in all that their votes tell of who signed, and in everything else. -/
structure Block.Agree (b c : Block) : Prop where
  height : b.height = c.height
  proposer : b.proposer = c.proposer
  txs : b.txs = c.txs
  signed : ∀ address, b.signedBy address = c.signedBy address

namespace Engine

variable {κ σ : Type} (config : TrackerConfig) {b c : Block}

theorem accept_congr (h : b.Agree c) :
    (accept config b : Work κ σ Unit) = accept config c := by
  have hrecord : b.record = c.record := by
    rw [Block.record, Block.record, h.height, h.proposer, h.txs]
  rw [accept, accept, hrecord, h.height, h.txs]

variable [Store σ]

theorem update_congr (h : b.Agree c) (operator : String) :
    (update config b operator : Work κ σ Observation) = update config c operator := by
  simp only [update, h.height, h.signed]

variable [Chain κ]

/-- The engine asks the votes of a block for nothing but who signed. -/
theorem handleBlock_congr (h : b.Agree c) :
    (handleBlock config b : Work κ σ Outcome) = handleBlock config c := by
  have hupdate : (updateAll config b : List String → Work κ σ Outcome) = updateAll config c := by
    funext operators
    simp only [updateAll, update_congr config h]
  rw [handleBlock, handleBlock, h.height, accept_congr config h, hupdate]

end Engine

/-! ## The two forms -/

/-- How a validator voted. -/
inductive Ballot where
  /-- Not at all. -/
  | absent
  /-- For no block. -/
  | nil
  /-- For the block. -/
  | commit
  deriving DecidableEq, Repr

/-- A validator with its vote. -/
structure Voter where
  /-- The consensus address. -/
  address : String
  /-- The vote. -/
  ballot : Ballot
  /-- There is an address. -/
  named : address ≠ ""

/-- One of the voters voted and has this address, whatever the case of its letters. -/
def Voter.Signs (voters : List Voter) (address : String) : Prop :=
  ∃ voter ∈ voters, voter.ballot ≠ .absent ∧
    Text.asciiLower voter.address = Text.asciiLower address

namespace Payload

/-- The flag of a vote that was not cast. -/
inductive AbsentFlag : Json → Prop where
  | number : AbsentFlag (.ofNat 1)
  | name : AbsentFlag (.text "BLOCK_ID_FLAG_ABSENT")

/-- The flag of a vote that was cast, if it has one. -/
inductive CastFlag : Option Json → Prop where
  | missing : CastFlag none
  | commit : CastFlag (some (.ofNat 2))
  | commitName : CastFlag (some (.text "BLOCK_ID_FLAG_COMMIT"))
  | nil : CastFlag (some (.ofNat 3))
  | nilName : CastFlag (some (.text "BLOCK_ID_FLAG_NIL"))

/-- The older entry of a vote. -/
inductive OlderEntry (voter : Voter) : Json → Prop where
  | absent (h : voter.ballot = .absent) : OlderEntry voter .null
  | cast {v : Json} (h : voter.ballot ≠ .absent)
      (ha : v.get? "validator_address" = some (.text voter.address)) : OlderEntry voter v

/-- The newer entry of a vote. -/
inductive NewerEntry (voter : Voter) : Json → Prop where
  | unnamed {v : Json} (h : voter.ballot = .absent)
      (ha : v.get? "validator_address" = none ∨ v.get? "validator_address" = some (.text "")) :
      NewerEntry voter v
  | flagged {v flag : Json} (h : voter.ballot = .absent)
      (ha : v.get? "validator_address" = some (.text voter.address))
      (hf : v.get? "block_id_flag" = some flag) (hflag : AbsentFlag flag) : NewerEntry voter v
  | cast {v : Json} (h : voter.ballot ≠ .absent)
      (ha : v.get? "validator_address" = some (.text voter.address))
      (hf : CastFlag (v.get? "block_id_flag")) : NewerEntry voter v

/-- The commit lists the votes in the older form. -/
def OlderCommit (voters : List Voter) (commit : Json) : Prop :=
  ∃ items, commit.get? "precommits" = some (.array items) ∧
    List.Forall₂ OlderEntry voters items

/-- The commit lists the votes in the newer form only. -/
def NewerCommit (voters : List Voter) (commit : Json) : Prop :=
  (∀ items, commit.get? "precommits" ≠ some (.array items)) ∧
    ∃ items, commit.get? "signatures" = some (.array items) ∧
      List.Forall₂ NewerEntry voters items

/-- The block in the two forms, with one header and one list of transactions. -/
structure TwoForms (voters : List Voter) (older newer : Json) : Prop where
  header : older.get? "header" = newer.get? "header"
  txs : older.at? ["data", "txs"] = newer.at? ["data", "txs"]
  older : ∃ commit, older.get? "last_commit" = some commit ∧ OlderCommit voters commit
  newer : ∃ commit, newer.get? "last_commit" = some commit ∧ NewerCommit voters commit

/-! ## Reading the votes -/

variable {voter : Voter} {voters : List Voter} {v commit : Json} {address : String}

theorem textField_eq (h : v.get? "validator_address" = some (.text address)) :
    textField v "validator_address" = address := by
  rw [textField, h]
  rfl

/-- The votes tell the address as one that signed. -/
def Told (votes : List Vote) (address : String) : Prop :=
  ∃ vote ∈ votes, vote.present = true ∧ Text.asciiLower vote.address = Text.asciiLower address

theorem isNull_older (h : OlderEntry voter v) :
    (v.isNull = true ↔ voter.ballot = .absent) ∧
      (voter.ballot ≠ .absent → textField v "validator_address" = voter.address) := by
  cases h with
  | absent h => exact ⟨⟨fun _ => h, fun _ => rfl⟩, fun hne => absurd h hne⟩
  | cast h ha =>
    refine ⟨⟨fun hnull => ?_, fun habsent => absurd habsent h⟩, fun _ => textField_eq ha⟩
    cases v with
    | null => cases ha
    | _ => cases hnull

/-- A vote in the newer form is present exactly if it was cast. -/
theorem signature_newer (h : NewerEntry voter v) :
    ((signature v).present = true ↔ voter.ballot ≠ .absent) ∧
      (voter.ballot ≠ .absent → (signature v).address = voter.address) := by
  cases h with
  | unnamed h ha =>
    have hempty : textField v "validator_address" = "" := by
      rcases ha with ha | ha
      · rw [textField, ha]
        rfl
      · exact textField_eq ha
    simp [signature, isAbsent, hempty, h]
  | flagged h ha hf hflag =>
    have habsent : isAbsent voter.address (v.get? "block_id_flag") = true := by
      rw [hf]
      cases hflag <;> simp [isAbsent, Json.ofNat, natural?, Json.Number.natural?, absentFlag]
    simp [signature, textField_eq ha, habsent, h]
  | cast h ha hf =>
    have hcast : isAbsent voter.address (v.get? "block_id_flag") = false := by
      have hnamed := voter.named
      generalize v.get? "block_id_flag" = flag at hf
      cases hf <;> simp [isAbsent, hnamed, Json.ofNat, natural?, Json.Number.natural?, absentFlag]
    simp [signature, textField_eq ha, hcast, h]

theorem exists_mem_iff_of_forall₂ {α β : Type} {R : α → β → Prop} {P : α → Prop} {Q : β → Prop}
    {xs : List α} {ys : List β} (h : List.Forall₂ R xs ys) (hPQ : ∀ x y, R x y → (P x ↔ Q y)) :
    (∃ x ∈ xs, P x) ↔ ∃ y ∈ ys, Q y := by
  induction h with
  | nil => simp
  | cons hxy _ ih => simp only [List.exists_mem_cons_iff, hPQ _ _ hxy, ih]

theorem told_older (h : OlderCommit voters commit) (address : String) :
    Told (votes commit) address ↔ Voter.Signs voters address := by
  obtain ⟨items, hitems, hall⟩ := h
  have hvotes : votes commit = (items.filter (!·.isNull)).map fun v =>
      ⟨textField v "validator_address", true⟩ := by
    rw [votes, hitems]
    rfl
  have htold : Told (votes commit) address ↔ ∃ v ∈ items, v.isNull = false ∧
      Text.asciiLower (textField v "validator_address") = Text.asciiLower address := by
    simp [Told, hvotes, and_assoc]
  rw [htold, Voter.Signs]
  refine (exists_mem_iff_of_forall₂ hall fun voter v hentry => ?_).symm
  obtain ⟨hnull, haddress⟩ := isNull_older hentry
  rw [← Bool.not_eq_true, hnull]
  exact and_congr_right fun hcast => by rw [haddress hcast]

theorem told_newer (h : NewerCommit voters commit) (address : String) :
    Told (votes commit) address ↔ Voter.Signs voters address := by
  obtain ⟨hnone, items, hitems, hall⟩ := h
  have hvotes : votes commit = items.map signature := by
    have hbind : (commit.get? "precommits").bind (·.items?) = none := by
      cases hfirst : commit.get? "precommits" with
      | none => rfl
      | some list =>
        cases list with
        | array list => exact absurd hfirst (hnone list)
        | _ => rfl
    rw [votes, hbind, hitems]
    rfl
  have htold : Told (votes commit) address ↔ ∃ v ∈ items, (signature v).present = true ∧
      Text.asciiLower (signature v).address = Text.asciiLower address := by
    simp [Told, hvotes]
  rw [htold, Voter.Signs]
  refine (exists_mem_iff_of_forall₂ hall fun voter v hentry => ?_).symm
  obtain ⟨hpresent, haddress⟩ := signature_newer hentry
  rw [hpresent]
  exact and_congr_right fun hcast => by rw [haddress hcast]

/-- Both forms are read, with the same height, proposer and number of transactions and the same
signers, or neither is. The engine takes the same step at both blocks, whatever the chain, the store
and the state it is in. -/
theorem two_forms {older newer : Json} (h : TwoForms voters older newer) :
    (∃ e, block older = .error e ∧ block newer = .error e) ∨
      ∃ b c, block older = .ok b ∧ block newer = .ok c ∧
        b.height = c.height ∧ b.proposer = c.proposer ∧ b.txs = c.txs ∧
        (∀ address, b.signedBy address = c.signedBy address ∧
          (b.signedBy address = true ↔ Voter.Signs voters address)) ∧
        ∀ (κ σ : Type) [Chain κ] [Store σ] (config : TrackerConfig),
          (Engine.handleBlock config b : Work κ σ Outcome) = Engine.handleBlock config c := by
  obtain ⟨commit, hcommit, holder⟩ := h.older
  obtain ⟨commit', hcommit', hnewer⟩ := h.newer
  have hheader : field older "header" = field newer "header" := by
    rw [field, field, h.header]
  rw [block, block, hheader, h.txs, hcommit, hcommit']
  cases field newer "header" with
  | error e => exact Or.inl ⟨e, rfl, rfl⟩
  | ok header =>
    simp only [bind, Except.bind]
    cases naturalField header "height" with
    | error e => exact Or.inl ⟨e, rfl, rfl⟩
    | ok height =>
      refine Or.inr ⟨_, _, rfl, rfl, rfl, rfl, rfl, ?_⟩
      generalize ((newer.at? ["data", "txs"]).bind (·.items?)).map (·.length) = txs
      let b : Block := ⟨height, textField header "proposer_address", txs.getD 0, votes commit⟩
      let c : Block := ⟨height, textField header "proposer_address", txs.getD 0, votes commit'⟩
      have hb : ∀ address, b.signedBy address = true ↔ Voter.Signs voters address :=
        fun address => Block.signedBy_iff.trans (told_older holder address)
      have hc : ∀ address, c.signedBy address = true ↔ Voter.Signs voters address :=
        fun address => Block.signedBy_iff.trans (told_newer hnewer address)
      have hsigned : ∀ address, b.signedBy address = c.signedBy address := fun address =>
        Bool.eq_iff_iff.mpr ((hb address).trans (hc address).symm)
      have hagree : b.Agree c := ⟨rfl, rfl, rfl, hsigned⟩
      exact ⟨fun address => ⟨hsigned address, hb address⟩, fun κ σ _ _ config =>
        Engine.handleBlock_congr config hagree⟩

/-- A block with one transaction and this commit. -/
def framed (commit : Json) : Json :=
  .object [("header", .object [("height", .text "8"), ("proposer_address", .text "AB12")]),
    ("data", .object [("txs", .array [.text "dHgx"])]), ("last_commit", commit)]

/-- One validator voted, and three did not. -/
theorem two_forms_of_four :
    let voter (address : String) (h : address ≠ "") (ballot : Ballot) : Voter :=
      ⟨address, ballot, h⟩
    let alpha := "72cd6e8422c407fb6d098690f1130b7ded7ec2f7"
    let voters := [voter alpha (by decide) .nil, voter "B0" (by decide) .absent,
      voter "C0" (by decide) .absent, voter "D0" (by decide) .absent]
    let entry (address : String) : Json := .object [("validator_address", .text address)]
    let older := framed (.object [("precommits", .array [entry alpha, .null, .null, .null])])
    let newer := framed (.object [("signatures", .array [
      .object [("block_id_flag", .ofNat 3), ("validator_address", .text alpha)],
      .object [("block_id_flag", .ofNat 1), ("validator_address", .text "B0")],
      .object [("block_id_flag", .ofNat 2), ("validator_address", .text "")],
      .object [("block_id_flag", .text "BLOCK_ID_FLAG_ABSENT"),
        ("validator_address", .text "D0")]])])
    let w := Engine.reached .standard Scripted.empty Alpha.followed
    TwoForms voters older newer ∧
      ∃ b c, block older = .ok b ∧ block newer = .ok c ∧ b ≠ c ∧
        b.signedBy (Text.upper alpha) = true ∧ c.signedBy (Text.upper alpha) = true ∧
        b.signedBy "B0" = false ∧ c.signedBy "B0" = false ∧
        (Engine.handleBlock .standard b).runIn w = (Engine.handleBlock .standard c).runIn w ∧
        (Engine.handleBlock .standard b).effects w =
          (Engine.handleBlock .standard c).effects w := by
  intro voter alpha voters entry older newer w
  have hforms : TwoForms voters older newer := by
    refine ⟨rfl, rfl, ⟨_, rfl, _, rfl, ?_⟩, ⟨_, rfl, nofun, _, rfl, ?_⟩⟩
    · exact .cons (.cast (by decide) rfl) (.cons (.absent rfl) (.cons (.absent rfl)
        (.cons (.absent rfl) .nil)))
    · exact .cons (.cast (by decide) rfl .nil) (.cons (.flagged rfl rfl rfl .number)
        (.cons (.unnamed rfl (Or.inr rfl)) (.cons (.flagged rfl rfl rfl .name) .nil)))
  have hb : block older = .ok ⟨8, "AB12", 1, [⟨alpha, true⟩]⟩ := by rfl
  obtain ⟨e, he, -⟩ | ⟨b, c, hb', hc, -, -, -, hsigned, hsame⟩ := two_forms hforms
  · rw [hb] at he
    cases he
  rw [hb] at hb'
  cases hb'
  have hc' : block newer = .ok ⟨8, "AB12", 1, [⟨alpha, true⟩, ⟨"B0", false⟩, ⟨"", false⟩,
      ⟨"D0", false⟩]⟩ := by rfl
  rw [hc'] at hc
  cases hc
  have hstep := hsame Scripted Memory .standard
  refine ⟨hforms, _, _, hb, hc', by decide, by decide +kernel, ?_, by decide, ?_,
    congrArg (Work.runIn · w) hstep, congrArg (Work.effects · w) hstep⟩
  · rw [← (hsigned _).1]
    decide +kernel
  · rw [← (hsigned _).1]
    decide

end Payload

end Liveness
