import Liveness.Proofs.Caseless
import Liveness.Proofs.Table

/-!
# Stores that answer alike

The memory store and the table store answer every list of requests alike, as long as the heights of
the blocks increase and a consensus address that is asked for has at most one record. Records stand
in different orders in the two stores, and numbers and lists in different forms; a relation between
the stores says which, and every request keeps it. Only NUL characters tell the stores apart: of
what stands behind them the table store compares no more than the length.
-/

namespace Liveness

open Store

variable {m m' : Memory} {t : Table} {r : Store.Request} {operator : String} {sub : Subscription}

/-! ## Requests -/

namespace Store

namespace Request

/-- The numbers of the request fit the words that hold them. -/
def InRange : Request → Prop
  | .insertSubscription sub => sub.tracking.InRange
  | .updateTracking _ tracking => tracking.InRange
  | .insertBlock block limit => block.InRange ∧ limit < Bound.signed64
  | _ => True

/-- The height of the block that is written. -/
def height? : Request → Option Nat
  | .insertBlock block _ => some block.height
  | _ => none

/-- The consensus address that is asked for. -/
def address? : Request → Option String
  | .findByConsensus address => some address
  | _ => none

/-- The two answers are the same, but for the text of a failure to add a subscription. -/
def Alike (r : Request) (a b : Except Stop Answer) : Prop :=
  a = b ∨ (∃ sub, r = .insertSubscription sub) ∧
    (∃ x, a = .error (.failed (.storage x))) ∧ ∃ y, b = .error (.failed (.storage y))

instance : DecidablePred InRange
  | .insertSubscription sub => inferInstanceAs (Decidable sub.tracking.InRange)
  | .updateTracking _ tracking => inferInstanceAs (Decidable tracking.InRange)
  | .insertBlock block limit =>
    inferInstanceAs (Decidable (block.InRange ∧ limit < Bound.signed64))
  | .findSubscription _ | .allSubscriptions | .setSubscribers _ _ | .deleteSubscription _
  | .findValidator _ | .findByConsensus _ | .allValidators | .upsertValidator _ | .setJailed _ _
  | .blocks => isTrue trivial

end Request

end Store

namespace Memory

/-- The records that have this consensus address, whatever the case of its letters. -/
def allByConsensus (m : Memory) (address : String) : List ValidatorRecord :=
  m.validators.filter fun r => Text.caseless r.consensus address

/-- Whenever a consensus address is asked for, at most one record has it. -/
def AsksForOne : Memory → List Store.Request → Prop
  | _, [] => True
  | m, r :: rest =>
    (∀ a ∈ r.address?, (m.allByConsensus a).length ≤ 1) ∧ AsksForOne (perform m r).2 rest

instance decidableAsksForOne : ∀ (m : Memory) (rs : List Store.Request),
    Decidable (m.AsksForOne rs)
  | _, [] => inferInstanceAs (Decidable True)
  | m, r :: rest =>
    have := decidableAsksForOne (perform m r).2 rest
    inferInstanceAs (Decidable ((∀ a ∈ r.address?, (m.allByConsensus a).length ≤ 1) ∧ _))

end Memory

namespace Store

/-- Requests to an empty store whose numbers are in range, whose blocks get higher and higher, and
that never ask for a consensus address of several records. -/
structure Orderly (rs : List Request) : Prop where
  inRange : ∀ r ∈ rs, r.InRange
  ascending : (rs.filterMap Request.height?).Pairwise (· < ·)
  one : Memory.empty.AsksForOne rs

/-- The two stores answer each request, and alike. -/
def AnswerAlike (rs : List Request) : Prop :=
  ∀ (i : Nat) (r : Request), rs[i]? = some r →
    ∃ a b, (performAll Memory.empty rs).1[i]? = some a ∧
      (performAll Table.empty rs).1[i]? = some b ∧ r.Alike a b

end Store

/-! ## The relation -/

/-- The table store holds what the memory store holds. -/
structure Mirrors (m : Memory) (t : Table) : Prop where
  sorted : m.Sorted
  subscriptions : t.subscriptions = m.subscriptions.map Table.SubscriptionRow.ofSubscription
  tracked : ∀ s ∈ m.subscriptions, s.tracking.InRange
  /-- Records stand in the order they were last written, and not by operator. -/
  validators : t.validators.Perm (m.validators.map Table.ValidatorRow.ofRecord)
  blocks : t.blocks = m.blocks.map Table.BlockRow.ofRecord
  retained : ∀ b ∈ m.blocks, b.InRange

/-- Two writes for the same request that both succeed, or fail alike. -/
inductive WriteAlike (r : Store.Request) :
    Except Failure Memory → Except Failure Table → Prop where
  | done {m : Memory} {t : Table} (h : Mirrors m t) : WriteAlike r (.ok m) (.ok t)
  | failed {f g : Failure} (h : r.Alike (.error (.failed f)) (.error (.failed g))) :
      WriteAlike r (.error f) (.error g)

/-- What makes the stores answer one request alike. -/
structure Memory.Fits (m : Memory) (r : Store.Request) : Prop where
  inRange : r.InRange
  above : ∀ h ∈ r.height?, ∀ b ∈ m.blocks, b.height < h
  one : ∀ a ∈ r.address?, (m.allByConsensus a).length ≤ 1
  noNul : ∀ a ∈ r.address?, '\x00' ∉ a.toList

theorem mirrors_empty : Mirrors Memory.empty Table.empty :=
  ⟨Memory.sorted_empty, rfl, fun _ h => (List.not_mem_nil h).elim, List.Perm.refl [], rfl,
    fun _ h => (List.not_mem_nil h).elim⟩

/-- A write that succeeds gives the next stores, and one that fails keeps those there were. -/
theorem WriteAlike.written {x : Except Failure Memory} {y : Except Failure Table}
    (hw : WriteAlike r x y) (h : Mirrors m t) :
    r.Alike ((written m x).1.map fun _ => .done) ((written t y).1.map fun _ => .done) ∧
      Mirrors (written m x).2 (written t y).2 := by
  cases hw with
  | done h' => exact ⟨Or.inl rfl, h'⟩
  | failed hf => exact ⟨hf, h⟩

namespace Mirrors

open Table

/-! ## Subscriptions -/

theorem row? (h : Mirrors m t) (operator : String) :
    t.row? operator = (m.subscription? operator).map SubscriptionRow.ofSubscription := by
  rw [Table.row?, h.subscriptions]
  exact Rows.find?_map fun _ => rfl

theorem findSubscription (h : Mirrors m t) (operator : String) :
    t.findSubscription operator = .ok (m.subscription? operator) := by
  rw [Table.findSubscription, h.row?]
  cases hs : m.subscription? operator with
  | none => rfl
  | some s =>
    have hrange := h.tracked s (Memory.mem_of_subscription? hs)
    show (SubscriptionRow.ofSubscription s).subscription.map some = .ok (some s)
    rw [subscription_ofSubscription hrange]
    rfl

theorem allSubscriptions (h : Mirrors m t) : t.allSubscriptions = .ok m.subscriptions := by
  rw [Table.allSubscriptions, h.subscriptions]
  exact mapM_map_ok fun s hs => subscription_ofSubscription (h.tracked s hs)

theorem putSubscription (h : Mirrors m t) (hs : sub.tracking.InRange) :
    Mirrors (m.putSubscription sub) (t.putRow (.ofSubscription sub)) where
  sorted := h.sorted.putSubscription sub
  subscriptions := by
    show Rows.put SubscriptionRow.operator t.subscriptions _ = _
    rw [h.subscriptions]
    exact Rows.put_map fun _ => rfl
  tracked := fun s hmem => by
    rcases Rows.mem_put hmem with rfl | hmem
    · exact hs
    · exact h.tracked s hmem
  validators := h.validators
  blocks := h.blocks
  retained := h.retained

theorem insertSubscription (h : Mirrors m t) (hs : sub.tracking.InRange) :
    WriteAlike (.insertSubscription sub) (m.insertSubscription sub) (t.insertSubscription sub) := by
  rw [Memory.insertSubscription, Table.insertSubscription, h.row?, Option.isSome_map]
  by_cases hold : (m.subscription? sub.operator).isSome = true
  · rw [if_pos hold, if_pos hold]
    exact .failed (Or.inr ⟨⟨sub, rfl⟩, ⟨_, rfl⟩, ⟨_, rfl⟩⟩)
  · rw [if_neg hold, if_neg hold]
    exact .done (h.putSubscription hs)

/-- A row that is changed as its subscription is. -/
theorem change {f : Subscription → Subscription} {g : SubscriptionRow → SubscriptionRow}
    (h : Mirrors m t) (hfg : ∀ s, g (.ofSubscription s) = .ofSubscription (f s))
    (hf : ∀ s ∈ m.subscriptions, (f s).tracking.InRange) :
    WriteAlike r (m.changeSubscription operator f) (t.changeRow operator g) := by
  rw [Memory.changeSubscription, Table.changeRow, h.row?]
  cases hs : m.subscription? operator with
  | none => exact .failed (Or.inl rfl)
  | some s =>
    have hrange := hf s (Memory.mem_of_subscription? hs)
    simp only [Option.map_some, hfg]
    exact .done (h.putSubscription hrange)

theorem updateTracking (h : Mirrors m t) (operator : String) {tracking : Tracking}
    (ht : tracking.InRange) :
    WriteAlike r (m.updateTracking operator tracking) (t.updateTracking operator tracking) :=
  h.change (fun s => track_ofSubscription s tracking) fun _ _ => ht

theorem setSubscribers (h : Mirrors m t) (operator : String) (subscribers : List String) :
    WriteAlike r (m.setSubscribers operator subscribers) (t.setSubscribers operator subscribers) :=
  h.change (fun _ => by simp only [SubscriptionRow.ofSubscription, SubscriptionRow.track])
    fun s hs => h.tracked s hs

theorem deleteSubscription (h : Mirrors m t) (operator : String) :
    Mirrors (m.deleteSubscription operator) (t.deleteSubscription operator) where
  sorted := h.sorted.deleteSubscription operator
  subscriptions := by
    show Rows.erase SubscriptionRow.operator t.subscriptions operator = _
    rw [h.subscriptions]
    exact Rows.erase_map fun _ => rfl
  tracked := fun s hmem => h.tracked s (Rows.mem_of_mem_erase hmem)
  validators := h.validators
  blocks := h.blocks
  retained := h.retained

/-! ## Records -/

/-- What is found in the records of one store is found in the other, if there is at most one. -/
theorem find? (h : Mirrors m t) {p : ValidatorRow → Bool}
    (hone : (m.validators.filter (p ∘ ValidatorRow.ofRecord)).length ≤ 1) :
    recordOf? (t.validators.find? p) = .ok (m.validators.find? (p ∘ ValidatorRow.ofRecord)) := by
  have hone' : ((m.validators.map ValidatorRow.ofRecord).filter p).length ≤ 1 := by
    rwa [List.filter_map, List.length_map]
  rw [Rows.find?_eq_of_perm h.validators hone', List.find?_map]
  cases m.validators.find? (p ∘ ValidatorRow.ofRecord) with
  | none => rfl
  | some v =>
    rw [Option.map_some, recordOf?, record_ofRecord]
    rfl

theorem findValidator (h : Mirrors m t) (operator : String) :
    t.findValidator operator = .ok (m.validator? operator) :=
  h.find? (Rows.length_filter_key_le_one h.sorted.validators)

theorem findByConsensus (h : Mirrors m t) {a : String} (hone : (m.allByConsensus a).length ≤ 1)
    (hnul : '\x00' ∉ a.toList) : t.findByConsensus a = .ok (m.byConsensus? a) := by
  have hp : (fun row : ValidatorRow => Text.caselessToNul row.consensus a) ∘ ValidatorRow.ofRecord =
      fun v => Text.caseless v.consensus a := by
    funext v
    exact Text.caselessToNul_of_not_mem hnul
  rw [Table.findByConsensus, h.find?, hp, Memory.byConsensus?]
  rwa [hp]

theorem allValidators (h : Mirrors m t) : t.allValidators = .ok m.validators := by
  have hsorted : Rows.Sorted ValidatorRow.operator (m.validators.map ValidatorRow.ofRecord) :=
    Rows.sorted_map (fun _ => rfl) h.sorted.validators
  rw [Table.allValidators, Rows.foldl_put_eq hsorted h.validators]
  exact mapM_map_ok fun v _ => record_ofRecord v

theorem upsertValidator (h : Mirrors m t) (v : ValidatorRecord) :
    Mirrors (m.putValidator v) (t.upsertValidator v) where
  sorted := h.sorted.putValidator v
  subscriptions := h.subscriptions
  tracked := h.tracked
  validators := by
    have hothers : (Rows.erase ValidatorRow.operator t.validators v.operator).Perm
        (Rows.erase ValidatorRow.operator (m.validators.map ValidatorRow.ofRecord) v.operator) :=
      h.validators.filter _
    rw [Rows.erase_map fun _ => rfl] at hothers
    have hput := (Rows.put_perm h.sorted.validators v).map ValidatorRow.ofRecord
    exact (List.perm_append_singleton _ _).trans ((hothers.cons _).trans hput.symm)
  blocks := h.blocks
  retained := h.retained

/-- The flag of a record is set in place in one store and with its whole row in the other. -/
theorem setFlag (h : Mirrors m t) {v : ValidatorRecord} (hv : m.validator? operator = some v)
    (jailed : Bool) :
    Mirrors (m.putValidator { v with jailed := jailed })
      { t with validators := t.validators.map fun row =>
          if (row.operator == operator && row.jailed != flag jailed) = true then
            { row with jailed := flag jailed } else row } where
  sorted := h.sorted.putValidator _
  subscriptions := h.subscriptions
  tracked := h.tracked
  validators := by
    obtain ⟨hmem, rfl⟩ := (Rows.find?_eq_some_iff h.sorted.validators).mp hv
    have hput : (m.putValidator { v with jailed := jailed }).validators = m.validators.map fun b =>
        if b.operator = v.operator then { b with jailed := jailed } else b :=
      Rows.put_eq_map (f := fun b : ValidatorRecord => { b with jailed := jailed })
        (fun _ => rfl) h.sorted.validators hmem
    have hset := h.validators.map fun row : ValidatorRow =>
      if (row.operator == v.operator && row.jailed != flag jailed) = true then
        { row with jailed := flag jailed } else row
    rw [List.map_map] at hset
    rw [hput, List.map_map]
    refine hset.trans (List.Perm.of_eq (List.map_congr_left fun b _ => ?_))
    simp only [Function.comp_apply, ValidatorRow.ofRecord, flag_bne_flag]
    by_cases hop : b.operator = v.operator <;> by_cases hj : b.jailed = jailed <;> simp [hop, hj]
  blocks := h.blocks
  retained := h.retained

/-- The flag is set in both stores, and both tell whether it was another; or both have no record. -/
theorem setJailed (h : Mirrors m t) (operator : String) (jailed : Bool) :
    (∃ b m' t', m.setJailed operator jailed = .ok (b, m') ∧
        t.setJailed operator jailed = .ok (b, t') ∧ Mirrors m' t') ∨
      ∃ f, m.setJailed operator jailed = .error f ∧ t.setJailed operator jailed = .error f := by
  have hany : (t.validators.any fun row => row.operator == operator && row.jailed != flag jailed) =
      (m.validator? operator).any fun v => v.jailed != jailed := by
    rw [h.validators.any_eq, List.any_map]
    simp only [Function.comp_def, ValidatorRow.ofRecord, flag_bne_flag]
    exact Rows.any_key_and h.sorted.validators _
  rw [Memory.setJailed]
  simp only [Table.setJailed, hany, h.findValidator]
  cases hv : m.validator? operator with
  | none => exact Or.inr ⟨_, rfl, rfl⟩
  | some v =>
    left
    by_cases hj : v.jailed = jailed
    · exact ⟨false, m, t, by simp [hj], by simp [hj], h⟩
    · exact ⟨true, _, _, by simp [hj], by simp [hj], h.setFlag hv jailed⟩

/-! ## Blocks -/

theorem keepBlocks (h : Mirrors m t) {block : BlockRecord} {limit : Nat} (hb : block.InRange)
    (hlimit : limit < Bound.signed64) (habove : ∀ b ∈ m.blocks, b.height < block.height) :
    keepGreatest (signed limit) (putBlock t.blocks (.ofRecord block)) =
      (History.keepLast limit (m.blocks ++ [block])).map BlockRow.ofRecord := by
  have hlast : ∀ c ∈ m.blocks.map BlockRow.ofRecord,
      c.height < (BlockRow.ofRecord block).height := by
    intro c hc
    obtain ⟨b, hmem, rfl⟩ := List.mem_map.mp hc
    have hlt := habove b hmem
    simp only [BlockRow.ofRecord]
    rw [signed_of_lt (h.retained b hmem).height, signed_of_lt hb.height]
    omega
  rw [keepGreatest_signed hlimit, h.blocks, putBlock_of_lt hlast, History.keepLast,
    History.keepLast, List.map_drop, List.map_append, List.map_singleton, List.length_append,
    List.length_append, List.length_map, List.length_singleton, List.length_singleton]

theorem insertBlock (h : Mirrors m t) {block : BlockRecord} {limit : Nat} (hb : block.InRange)
    (hlimit : limit < Bound.signed64) (habove : ∀ b ∈ m.blocks, b.height < block.height) :
    Mirrors (m.insertBlock block limit) (t.insertBlock block limit) := by
  have hblocks := h.keepBlocks hb hlimit habove
  rw [Table.insertBlock]
  -- from here on the rows are known by the blocks they stand for, and no word is computed
  generalize keepGreatest (signed limit) (putBlock t.blocks (.ofRecord block)) = rows at hblocks ⊢
  refine ⟨h.sorted.insertBlock block limit, h.subscriptions, h.tracked, h.validators, hblocks, ?_⟩
  intro b hmem
  have hmem' := (History.keepLast_suffix _ _).subset hmem
  rcases List.mem_append.mp hmem' with hmem' | hmem'
  · exact h.retained b hmem'
  · rw [List.mem_singleton.mp hmem']
    exact hb

theorem readBlocks (h : Mirrors m t) : t.blocks.map BlockRow.record = m.blocks := by
  rw [h.blocks, List.map_map]
  exact (List.map_congr_left fun b hb => blockRecord_ofRecord (h.retained b hb)).trans
    (List.map_id _)

/-! ## Single requests -/

theorem map_mapError_of_ok {α : Type} {x : Except Failure α} {a : α} (hx : x = .ok a)
    (f : α → Answer) :
    (Except.ok a : Except Stop α).map f = (x.mapError Stop.failed).map f := by
  rw [hx]
  rfl

/-- A request that fits is answered alike, and the stores go on to mirror each other. -/
theorem perform (h : Mirrors m t) (hr : m.Fits r) :
    r.Alike (Store.perform m r).1 (Store.perform t r).1 ∧
      Mirrors (Store.perform m r).2 (Store.perform t r).2 := by
  cases r with
  | findSubscription operator =>
    exact ⟨Or.inl (map_mapError_of_ok (h.findSubscription operator) Answer.subscription), h⟩
  | allSubscriptions =>
    exact ⟨Or.inl (map_mapError_of_ok h.allSubscriptions Answer.subscriptions), h⟩
  | insertSubscription sub => exact (h.insertSubscription hr.inRange).written h
  | updateTracking operator tracking =>
    exact (h.updateTracking operator hr.inRange).written h
  | setSubscribers operator subscribers =>
    exact (h.setSubscribers operator subscribers).written h
  | deleteSubscription operator => exact ⟨Or.inl rfl, h.deleteSubscription operator⟩
  | findValidator operator =>
    exact ⟨Or.inl (map_mapError_of_ok (h.findValidator operator) Answer.validator), h⟩
  | findByConsensus address =>
    have hfind := h.findByConsensus (hr.one address rfl) (hr.noNul address rfl)
    exact ⟨Or.inl (map_mapError_of_ok hfind Answer.validator), h⟩
  | allValidators =>
    exact ⟨Or.inl (map_mapError_of_ok h.allValidators Answer.validators), h⟩
  | upsertValidator record => exact ⟨Or.inl rfl, h.upsertValidator record⟩
  | setJailed operator jailed =>
    simp only [Store.perform, Store.setJailed]
    obtain ⟨b, m', t', hm, ht, h'⟩ | ⟨f, hm, ht⟩ := h.setJailed operator jailed
    · rw [hm, ht]
      exact ⟨Or.inl rfl, h'⟩
    · rw [hm, ht]
      exact ⟨Or.inl rfl, h⟩
  | insertBlock block limit =>
    obtain ⟨hb, hlimit⟩ := hr.inRange
    exact ⟨Or.inl rfl, h.insertBlock hb hlimit (hr.above block.height rfl)⟩
  | blocks =>
    refine ⟨Or.inl ?_, h⟩
    show _ = Except.ok (Answer.blocks (t.blocks.map BlockRow.record))
    rw [h.readBlocks]
    rfl

end Mirrors

/-! ## Runs -/

namespace Memory

theorem blocks_written {x : Except Failure Memory}
    (h : ∀ m', x = .ok m' → m'.blocks = m.blocks) : (written m x).2.blocks = m.blocks := by
  cases x with
  | error f => rfl
  | ok m' => exact h m' rfl

theorem blocks_changeSubscription {f : Subscription → Subscription}
    (h : m.changeSubscription operator f = .ok m') : m'.blocks = m.blocks := by
  rw [changeSubscription] at h
  cases hs : m.subscription? operator with
  | none => simp [hs] at h
  | some s =>
    simp only [hs, Except.ok.injEq] at h
    rw [← h, putSubscription]

/-- A request keeps no block but those there were and the one it writes. -/
theorem mem_blocks_perform {b : BlockRecord} (h : b ∈ (perform m r).2.blocks) :
    b ∈ m.blocks ∨ b.height ∈ r.height? := by
  have hsame : (perform m r).2.blocks = m.blocks → b ∈ m.blocks ∨ b.height ∈ r.height? := by
    intro heq
    rw [heq] at h
    exact Or.inl h
  cases r with
  | insertBlock block limit =>
    have hmem := (History.keepLast_suffix _ _).subset h
    rcases List.mem_append.mp hmem with hmem | hmem
    · exact Or.inl hmem
    · rw [List.mem_singleton.mp hmem]
      exact Or.inr rfl
  | insertSubscription sub =>
    refine hsame (blocks_written fun m' hm' => ?_)
    rw [insertSubscription] at hm'
    split_ifs at hm'
    cases hm'
    rfl
  | updateTracking operator tracking =>
    exact hsame (blocks_written fun m' hm' => blocks_changeSubscription hm')
  | setSubscribers operator subscribers =>
    exact hsame (blocks_written fun m' hm' => blocks_changeSubscription hm')
  | setJailed operator jailed =>
    refine hsame ?_
    simp only [perform, Store.setJailed, setJailed]
    cases m.validator? operator with
    | none => rfl
    | some v =>
      by_cases hj : v.jailed = jailed
      · simp [hj]
      · simp [hj, putValidator]
  | _ => exact Or.inl h

end Memory

/-- Stores that mirror each other answer a run alike. -/
theorem Mirrors.performAll {rs : List Store.Request} (h : Mirrors m t)
    (hrange : ∀ r ∈ rs, r.InRange) (hup : (rs.filterMap Store.Request.height?).Pairwise (· < ·))
    (habove : ∀ k ∈ rs.filterMap Store.Request.height?, ∀ b ∈ m.blocks, b.height < k)
    (hone : m.AsksForOne rs) (hnul : ∀ r ∈ rs, ∀ a ∈ r.address?, '\x00' ∉ a.toList) {i : Nat}
    (hi : rs[i]? = some r) :
    ∃ a b, (Store.performAll m rs).1[i]? = some a ∧ (Store.performAll t rs).1[i]? = some b ∧
      r.Alike a b := by
  induction rs generalizing m t i with
  | nil => simp at hi
  | cons r₀ rest ih =>
    obtain ⟨hr₀, hrest⟩ := List.forall_mem_cons.mp hrange
    obtain ⟨hnul₀, hnulrest⟩ := List.forall_mem_cons.mp hnul
    have hfits : m.Fits r₀ := by
      refine ⟨hr₀, fun k hk => ?_, hone.1, hnul₀⟩
      exact habove k (List.mem_filterMap.mpr ⟨r₀, List.mem_cons_self, hk⟩)
    obtain ⟨halike, hnext⟩ := h.perform hfits
    cases i with
    | zero =>
      obtain rfl : r₀ = r := by simpa using hi
      exact ⟨_, _, rfl, rfl, halike⟩
    | succ i =>
      have hup' : (rest.filterMap Store.Request.height?).Pairwise (· < ·) :=
        hup.sublist ((List.sublist_cons_self r₀ rest).filterMap _)
      refine ih hnext hrest hup' ?_ hone.2 hnulrest hi
      intro k hk b hb
      rcases Memory.mem_blocks_perform hb with hb | hb
      · have hk' : k ∈ (r₀ :: rest).filterMap Store.Request.height? :=
          ((List.sublist_cons_self r₀ rest).filterMap _).subset hk
        exact habove k hk' b hb
      · -- the block that was just written is below all that come
        rw [List.filterMap_cons, show r₀.height? = some b.height from hb] at hup
        exact (List.pairwise_cons.mp hup).1 k hk

namespace Store

variable {rs : List Request}

/-- The memory store and the table store answer orderly requests alike, whatever the requests and
however many: subscriptions, records and blocks in the same order, the same failures, and numbers up
to the greatest of their words. Consensus addresses that are asked for must have no NUL. -/
theorem answerAlike_of_orderly (h : Orderly rs)
    (hnul : ∀ r ∈ rs, ∀ a ∈ r.address?, '\x00' ∉ a.toList) : AnswerAlike rs := by
  intro i r hi
  refine mirrors_empty.performAll h.inRange h.ascending ?_ h.one hnul hi
  intro k _ b hb
  exact (List.not_mem_nil hb).elim

/-- Every kind of request, with the greatest numbers, limits that change, and failures. -/
def everyRequest : List Request :=
  [.insertSubscription ⟨"b", ⟨18446744073709551615, 4294967295, 9223372036854775808,
      ⟨[⟨18446744073709551615, true⟩, ⟨5, false⟩]⟩⟩, ["chat-1"]⟩,
    .insertSubscription ⟨"a", Tracking.fresh, ["chat-2", "chat-2"]⟩,
    .insertSubscription (Subscription.fresh "b"),
    .updateTracking "a" ⟨9223372036854775808, 1, 0, ⟨[⟨9223372036854775807, false⟩]⟩⟩,
    .updateTracking "c" Tracking.fresh, .setSubscribers "b" [], .setSubscribers "c" ["chat-1"],
    .findSubscription "b", .allSubscriptions, .deleteSubscription "a", .allSubscriptions,
    .upsertValidator ⟨"b", "AB", "", "k", true, ⟨"m", "", "", ""⟩⟩,
    .upsertValidator ⟨"a", "CD", "s", "k", false, ⟨"", "i", "w", "d"⟩⟩,
    .upsertValidator ⟨"b", "EF", "", "k", false, ⟨"m", "", "", ""⟩⟩,
    .findByConsensus "ef", .findByConsensus "ab", .allValidators, .setJailed "b" true,
    .setJailed "b" true, .setJailed "c" true, .findValidator "b",
    .insertBlock ⟨1, "P", 4294967295⟩ 2, .insertBlock ⟨7, "P", 0⟩ 9223372036854775807,
    .insertBlock ⟨8, "Q", 1⟩ 2, .blocks, .insertBlock ⟨9223372036854775807, "Q", 2⟩ 0, .blocks]

theorem answerAlike_everyRequest :
    Orderly everyRequest ∧ (∀ r ∈ everyRequest, ∀ a ∈ r.address?, '\x00' ∉ a.toList) ∧
      AnswerAlike everyRequest := by
  have horderly : Orderly everyRequest := ⟨by decide +kernel, by decide +kernel, by decide +kernel⟩
  have hnul : ∀ r ∈ everyRequest, ∀ a ∈ r.address?, '\x00' ∉ a.toList := by decide +kernel
  exact ⟨horderly, hnul, answerAlike_of_orderly horderly hnul⟩

/-- A record, and an address of as many bytes that is another one behind its NUL. -/
def nulRequests : List Request :=
  [.upsertValidator ⟨"a", "AB\x00CD", "", "", false, ⟨"m", "", "", ""⟩⟩,
    .findByConsensus "ab\x00xy"]

/-- No record has the address that is asked for, and the table store finds one. -/
theorem not_answerAlike_nul : Orderly nulRequests ∧ ¬ AnswerAlike nulRequests := by
  refine ⟨⟨by decide +kernel, by decide +kernel, by decide +kernel⟩, fun h => ?_⟩
  have hmemory : (performAll Memory.empty nulRequests).1[1]? = some (.ok (.validator none)) := by
    decide +kernel
  have htable : (performAll Table.empty nulRequests).1[1]? = some (.ok (.validator
      (some ⟨"a", "AB\x00CD", "", "", false, ⟨"m", "", "", ""⟩⟩))) := by decide +kernel
  obtain ⟨a, b, ha, hb, halike⟩ := h 1 (.findByConsensus "ab\x00xy") rfl
  rw [hmemory, Option.some.injEq] at ha
  rw [htable, Option.some.injEq] at hb
  subst ha hb
  rcases halike with heq | ⟨⟨sub, hsub⟩, -⟩
  · cases heq
  · cases hsub

end Store

end Liveness
