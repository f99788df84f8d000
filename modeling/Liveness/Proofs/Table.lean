import Mathlib.Tactic.SplitIfs
import Liveness.Proofs.Columns
import Liveness.Proofs.Rows
import Liveness.Store.Table

/-!
# Rows that are read back

A subscription, a record and a block are read back from their rows as they were written, as long as
their numbers fit the words that hold them. Counters and heights of a history may use all 64 bits:
their sign is undone. Heights of blocks are compared as they stand, and must not be negative.
-/

namespace Liveness

/-- The numbers of a tracking fit the words that hold them. -/
structure Tracking.InRange (t : Tracking) : Prop where
  counter : t.counter < Bound.word64
  level : t.level < Bound.word32
  lastMissed : t.lastMissed < Bound.word64
  heights : ∀ e ∈ t.history.entries, e.height < Bound.word64

/-- The height of a block is no negative word, and its number of transactions fits its word. -/
structure BlockRecord.InRange (b : BlockRecord) : Prop where
  height : b.height < Bound.signed64
  txs : b.txs < Bound.word32

instance (t : Tracking) : Decidable t.InRange :=
  decidable_of_iff (t.counter < Bound.word64 ∧ t.level < Bound.word32 ∧
      t.lastMissed < Bound.word64 ∧ ∀ e ∈ t.history.entries, e.height < Bound.word64)
    ⟨fun ⟨h₁, h₂, h₃, h₄⟩ => ⟨h₁, h₂, h₃, h₄⟩, fun ⟨h₁, h₂, h₃, h₄⟩ => ⟨h₁, h₂, h₃, h₄⟩⟩

instance (b : BlockRecord) : Decidable b.InRange :=
  decidable_of_iff (b.height < Bound.signed64 ∧ b.txs < Bound.word32)
    ⟨fun ⟨h₁, h₂⟩ => ⟨h₁, h₂⟩, fun ⟨h₁, h₂⟩ => ⟨h₁, h₂⟩⟩

namespace Table

variable {n limit : Nat}

/-! ## Words -/

theorem unsigned_signed (h : n < Bound.word64) : unsigned (signed n) = n := by
  rw [unsigned, signed, Int.bmod_emod, ← Int.natCast_mod, Nat.mod_eq_of_lt h, Int.toNat_natCast]

theorem signed_of_lt (h : n < Bound.signed64) : signed n = n := by
  have hword : Bound.word64 = 18446744073709551616 := rfl
  have hsigned : Bound.signed64 = 9223372036854775808 := rfl
  exact Int.bmod_eq_of_le (by omega) (by omega)

theorem unsigned32_signed (h : n < Bound.word32) : unsigned32 (signed n) = n := by
  rw [unsigned32, signed_of_lt (h.trans (by decide)), ← Int.natCast_mod, Nat.mod_eq_of_lt h,
    Int.toNat_natCast]

theorem flag_bne_flag (b c : Bool) : (flag b != flag c) = (b != c) := by
  cases b <;> cases c <;> rfl

/-! ## Rows -/

theorem subscription_ofSubscription {s : Subscription} (h : s.tracking.InRange) :
    (SubscriptionRow.ofSubscription s).subscription = .ok s := by
  have hhistory := Column.history?_ofHistory h.heights
  have htargets := Column.targets?_ofTargets s.subscribers
  simp only [SubscriptionRow.subscription, SubscriptionRow.ofSubscription, SubscriptionRow.track,
    hhistory, htargets, unsigned_signed h.counter, unsigned32_signed h.level,
    unsigned_signed h.lastMissed]
  rfl

/-- A row is tracked as its subscription is. -/
theorem track_ofSubscription (s : Subscription) (tracking : Tracking) :
    (SubscriptionRow.ofSubscription s).track tracking =
      .ofSubscription { s with tracking := tracking } := by
  simp only [SubscriptionRow.ofSubscription, SubscriptionRow.track]

theorem record_ofRecord (r : ValidatorRecord) : (ValidatorRow.ofRecord r).record = .ok r := by
  have hdescription := Column.description?_ofDescription r.description
  have hflag : (flag r.jailed != 0) = r.jailed := by cases r.jailed <;> rfl
  simp only [ValidatorRow.record, ValidatorRow.ofRecord, hdescription, hflag]
  rfl

/-- A block is read back even if its height is a negative word. -/
theorem blockRecord_ofRecord_of_lt {b : BlockRecord} (hheight : b.height < Bound.word64)
    (htxs : b.txs < Bound.word32) : (BlockRow.ofRecord b).record = b := by
  rw [BlockRow.record, BlockRow.ofRecord, unsigned_signed hheight, unsigned32_signed htxs]

theorem blockRecord_ofRecord {b : BlockRecord} (h : b.InRange) :
    (BlockRow.ofRecord b).record = b :=
  blockRecord_ofRecord_of_lt (h.height.trans (by decide)) h.txs

/-- Rows that can be read one by one can be read together. -/
theorem mapM_map_ok {α β : Type} {write : α → β} {read : β → Except Failure α} {as : List α}
    (h : ∀ a ∈ as, read (write a) = .ok a) : (as.map write).mapM read = .ok as := by
  induction as with
  | nil => rfl
  | cons a as ih =>
    obtain ⟨ha, has⟩ := List.forall_mem_cons.mp h
    rw [List.map_cons, List.mapM_cons, ha, ih has]
    rfl

/-! ## Blocks -/

/-- A block higher than all others comes last. -/
theorem putBlock_of_lt {rows : List BlockRow} {b : BlockRow} (h : ∀ c ∈ rows, c.height < b.height) :
    putBlock rows b = rows ++ [b] := by
  induction rows with
  | nil => rfl
  | cons c rest ih =>
    obtain ⟨hc, hrest⟩ := List.forall_mem_cons.mp h
    rw [putBlock, if_neg hc.asymm, if_neg hc.ne', ih hrest, List.cons_append]

/-- A limit that is a negative word is none. -/
theorem keepGreatest_of_le (h : Bound.signed64 ≤ limit) (hw : limit < Bound.word64)
    (rows : List BlockRow) : keepGreatest (signed limit) rows = rows := by
  have hword : Bound.word64 = 18446744073709551616 := rfl
  have hsigned : Bound.signed64 = 9223372036854775808 := rfl
  have hneg : signed limit < 0 := by
    rw [signed, Int.bmod_def, hword]
    omega
  rw [keepGreatest, if_pos hneg]

theorem keepGreatest_signed (h : limit < Bound.signed64) (rows : List BlockRow) :
    keepGreatest (signed limit) rows = History.keepLast limit rows := by
  have hpos : ¬ ((limit : Nat) : Int) < 0 := by omega
  rw [keepGreatest, signed_of_lt h, if_neg hpos, Int.toNat_natCast, History.keepLast]

end Table

end Liveness
