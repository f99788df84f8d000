import Liveness.Proofs.Acts
import Liveness.Proofs.Answers
import Liveness.Proofs.Jailing
import Liveness.Proofs.Mutations
import Liveness.Proofs.Rows

/-!
# What a scan leaves behind

A scan asks the chain about the operators of its mutations, one after another. The answers alone
decide which mutations are carried out and what they write: the rest of a scan is a fold of writes
over the store. For each operator that fold has a closed form, a record and what became of a
subscription, and the closed form does not change when the same answers are folded in once more.
-/

namespace Liveness

open Work

/-! ## Mutations that were carried out -/

/-- The answers of a chain about operators, asked about one after another, and the chain after
them. -/
def Chain.answers {κ : Type} [Chain κ] (c : κ) : List String → List (Except Failure Snapshot) × κ
  | [] => ([], c)
  | operator :: operators =>
    let (answer, c) := Chain.validator c operator none
    let (rest, c) := answers c operators
    (answer :: rest, c)

/-- The subscription without a streak and a miss, its history and its followers kept. -/
def Subscription.restarted (sub : Subscription) : Subscription :=
  { sub with tracking := sub.tracking.restart }

/-- A mutation that was carried out, with the record that it gave. -/
abbrev Applied := Mutation × ValidatorRecord

namespace Applied

/-- The mutations for which the answers give a record. -/
def ofAnswers (accountPrefix : String) (ms : List Mutation)
    (answers : List (Except Failure Snapshot)) : List Applied :=
  (ms.zip answers).filterMap fun (m, answer) =>
    (Registry.fetched accountPrefix answer).toOption.map (m, ·)

/-- The record that an operator was given last. -/
def latest? (ps : List Applied) (operator : String) : Option ValidatorRecord :=
  ((ps.filter (·.1.operator = operator)).getLast?).map (·.2)

/-- The operator was created. -/
def Creates (ps : List Applied) (operator : String) : Prop := ∃ p ∈ ps, p.1 = .created operator

/-- The operator left jail, and the record does not say that it is back. -/
def Frees (ps : List Applied) (operator : String) : Prop :=
  ∃ p ∈ ps, p.1 = .unjailed operator ∧ p.2.jailed = false

instance (ps : List Applied) (operator : String) : Decidable (Creates ps operator) :=
  inferInstanceAs (Decidable (∃ p ∈ ps, p.1 = .created operator))

instance (ps : List Applied) (operator : String) : Decidable (Frees ps operator) :=
  inferInstanceAs (Decidable (∃ p ∈ ps, p.1 = .unjailed operator ∧ p.2.jailed = false))

/-- What becomes of the subscription of an operator. -/
def settle (ps : List Applied) (operator : String) (sub? : Option Subscription) :
    Option Subscription :=
  let kept := if Creates ps operator then some (sub?.getD (.fresh operator)) else sub?
  if Frees ps operator then kept.map Subscription.restarted else kept

variable {ps qs : List Applied} {p : Applied} {operator : String}

theorem latest?_cons :
    latest? (p :: ps) operator =
      (latest? ps operator).or (if p.1.operator = operator then some p.2 else none) := by
  by_cases h : p.1.operator = operator
  · simp only [latest?, List.filter_cons, h, decide_true, if_true, List.getLast?_cons]
    cases (ps.filter (·.1.operator = operator)).getLast? <;> rfl
  · simp [latest?, h]

theorem latest?_eq_none (h : ∀ p ∈ ps, p.1.operator ≠ operator) : latest? ps operator = none := by
  have hf : ps.filter (·.1.operator = operator) = [] :=
    List.filter_eq_nil_iff.mpr fun p hp => by simpa using h p hp
  rw [latest?, hf]
  rfl

theorem ofAnswers_cons (accountPrefix : String) (m : Mutation) (ms : List Mutation)
    (answer : Except Failure Snapshot) (answers : List (Except Failure Snapshot)) :
    ofAnswers accountPrefix (m :: ms) (answer :: answers) =
      (Registry.fetched accountPrefix answer).toOption.toList.map (m, ·) ++
        ofAnswers accountPrefix ms answers := by
  cases h : Registry.fetched accountPrefix answer <;> simp [ofAnswers, h, Except.toOption]

theorem creates_append :
    Creates (ps ++ qs) operator ↔ Creates ps operator ∨ Creates qs operator := by
  simp [Creates, or_and_right, exists_or]

theorem frees_append : Frees (ps ++ qs) operator ↔ Frees ps operator ∨ Frees qs operator := by
  simp [Frees, or_and_right, exists_or]

/-- To settle what came first and then the rest is to settle all of it: a fresh subscription has
nothing to restart, and one restart is as good as two. -/
theorem settle_append (sub? : Option Subscription) :
    settle (ps ++ qs) operator sub? = settle qs operator (settle ps operator sub?) := by
  have hfresh : (Subscription.fresh operator).restarted = .fresh operator := rfl
  have htwice : ∀ sub : Subscription, sub.restarted.restarted = sub.restarted := fun _ => rfl
  simp only [settle, creates_append, frees_append]
  -- what each part does decides, and whether there was a subscription before
  by_cases hcp : Creates ps operator <;> by_cases hcq : Creates qs operator <;>
    by_cases hfp : Frees ps operator <;> by_cases hfq : Frees qs operator <;>
      cases sub? <;> simp [hcp, hcq, hfp, hfq, hfresh, htwice]

theorem settle_self (sub? : Option Subscription) :
    settle ps operator (settle ps operator sub?) = settle ps operator sub? := by
  rw [← settle_append]
  simp only [settle, creates_append, frees_append, or_self]

theorem settle_eq_self (hc : ¬ Creates ps operator) (hf : ¬ Frees ps operator)
    (sub? : Option Subscription) : settle ps operator sub? = sub? := by
  rw [settle, if_neg hc, if_neg hf]

end Applied

/-! ## The writes of one mutation -/

/-- The store after a mutation gave a record. -/
def Memory.carry (s : Memory) (p : Applied) : Memory :=
  let s := s.putValidator p.2
  match p.1, s.subscription? p.1.operator with
  | .created operator, none => s.putSubscription (.fresh operator)
  | .unjailed _, some sub => if p.2.jailed then s else s.putSubscription sub.restarted
  | _, _ => s

namespace Memory

variable {s : Memory} {p : Applied} {ps : List Applied}

theorem carry_cases (s : Memory) (p : Applied) :
    s.carry p = s.putValidator p.2 ∨
      ∃ sub, s.carry p = (s.putValidator p.2).putSubscription sub := by
  unfold carry
  dsimp only
  split
  · exact Or.inr ⟨_, rfl⟩
  · split
    · exact Or.inl rfl
    · exact Or.inr ⟨_, rfl⟩
  · exact Or.inl rfl

theorem Sorted.carry (h : s.Sorted) (p : Applied) : (s.carry p).Sorted := by
  rcases carry_cases s p with hc | ⟨sub, hc⟩
  · rw [hc]
    exact h.putValidator p.2
  · rw [hc]
    exact (h.putValidator p.2).putSubscription sub

theorem blocks_carry (s : Memory) (p : Applied) : (s.carry p).blocks = s.blocks := by
  rcases carry_cases s p with hc | ⟨sub, hc⟩ <;> rw [hc] <;> rfl

theorem validator?_carry (s : Memory) (p : Applied) (operator : String) :
    (s.carry p).validator? operator =
      if p.2.operator = operator then some p.2 else s.validator? operator := by
  rcases carry_cases s p with hc | ⟨sub, hc⟩ <;> rw [hc] <;> simp

/-- One mutation settles the subscription of its operator and leaves the others as they are. -/
theorem subscription?_carry (s : Memory) (p : Applied) (operator : String) :
    (s.carry p).subscription? operator =
      Applied.settle [p] operator (s.subscription? operator) := by
  obtain ⟨m, r⟩ := p
  cases m with
  | edited op =>
    rw [Applied.settle_eq_self (by simp [Applied.Creates]) (by simp [Applied.Frees])]
    rfl
  | created op =>
    have hf : ¬ Applied.Frees [(.created op, r)] operator := by simp [Applied.Frees]
    by_cases hop : op = operator
    · subst hop
      have hc : Applied.Creates [(.created op, r)] op := ⟨_, List.mem_singleton_self _, rfl⟩
      rw [Applied.settle, if_neg hf, if_pos hc]
      cases hs : s.subscription? op <;> simp [carry, Mutation.operator, hs, Subscription.fresh]
    · rw [Applied.settle_eq_self (by simpa [Applied.Creates] using hop) hf]
      cases hs : s.subscription? op <;>
        simp [carry, Mutation.operator, hs, Subscription.fresh, hop]
  | unjailed op =>
    have hc : ¬ Applied.Creates [(.unjailed op, r)] operator := by simp [Applied.Creates]
    by_cases hfrees : op = operator ∧ r.jailed = false
    · obtain ⟨rfl, hr⟩ := hfrees
      have hf : Applied.Frees [(.unjailed op, r)] op := ⟨_, List.mem_singleton_self _, rfl, hr⟩
      rw [Applied.settle, if_pos hf, if_neg hc]
      cases hs : s.subscription? op with
      | none => simp [carry, Mutation.operator, hs]
      | some sub =>
        have hsub : sub.operator = op := operator_of_subscription? hs
        have hop : sub.restarted.operator = op := hsub
        simp [carry, Mutation.operator, hs, hr, hop]
    · rw [Applied.settle_eq_self hc (by simpa [Applied.Frees] using hfrees)]
      cases hs : s.subscription? op with
      | none => simp [carry, Mutation.operator, hs]
      | some sub =>
        have hsub : sub.operator = op := operator_of_subscription? hs
        cases hr : r.jailed with
        | true => simp [carry, Mutation.operator, hs, hr]
        | false =>
          have hop : sub.restarted.operator ≠ operator := fun h => hfrees ⟨hsub.symm.trans h, hr⟩
          simp [carry, Mutation.operator, hs, hr, hop]

/-! ## The writes of a scan -/

theorem Sorted.foldl_carry (h : s.Sorted) (ps : List Applied) :
    (ps.foldl Memory.carry s).Sorted := by
  induction ps generalizing s with
  | nil => exact h
  | cons p ps ih => exact ih (h.carry p)

theorem blocks_foldl_carry (s : Memory) (ps : List Applied) :
    (ps.foldl carry s).blocks = s.blocks := by
  induction ps generalizing s with
  | nil => rfl
  | cons p ps ih => rw [List.foldl_cons, ih, blocks_carry]

theorem validator?_foldl_carry (h : ∀ p ∈ ps, p.2.operator = p.1.operator) (s : Memory)
    (operator : String) :
    (ps.foldl carry s).validator? operator =
      (Applied.latest? ps operator).or (s.validator? operator) := by
  induction ps generalizing s with
  | nil => rfl
  | cons p ps ih =>
    rw [List.foldl_cons, ih (fun q hq => h q (List.mem_cons_of_mem p hq)), validator?_carry,
      Applied.latest?_cons, h p List.mem_cons_self, Option.or_assoc]
    split <;> rfl

theorem subscription?_foldl_carry (ps : List Applied) (s : Memory) (operator : String) :
    (ps.foldl carry s).subscription? operator =
      Applied.settle ps operator (s.subscription? operator) := by
  induction ps generalizing s with
  | nil => rfl
  | cons p ps ih =>
    rw [List.foldl_cons, ih, subscription?_carry, ← Applied.settle_append, List.singleton_append]

/-- Stores in order that hold the same are the same. -/
theorem Sorted.ext {s' : Memory} (h : s.Sorted) (h' : s'.Sorted)
    (hs : ∀ operator, s.subscription? operator = s'.subscription? operator)
    (hv : ∀ operator, s.validator? operator = s'.validator? operator)
    (hb : s.blocks = s'.blocks) : s = s' := by
  have hsubs := Rows.eq_of_find?_eq h.subscriptions h'.subscriptions hs
  have hvals := Rows.eq_of_find?_eq h.validators h'.validators hv
  cases s
  cases s'
  simp only at hsubs hvals hb
  rw [hsubs, hvals, hb]

/-- What a scan wrote it may write again. -/
theorem Sorted.foldl_carry_twice (h : s.Sorted) (hp : ∀ p ∈ ps, p.2.operator = p.1.operator) :
    ps.foldl Memory.carry (ps.foldl Memory.carry s) = ps.foldl Memory.carry s := by
  refine ((h.foldl_carry ps).foldl_carry ps).ext (h.foldl_carry ps) ?_ ?_ ?_
  · intro operator
    simp only [subscription?_foldl_carry, Applied.settle_self]
  · intro operator
    simp only [validator?_foldl_carry hp, ← Option.or_assoc, Option.or_self]
  · exact blocks_foldl_carry _ ps

end Memory

/-! ## Running a scan -/

namespace Registry

variable {κ : Type} [Chain κ] {accountPrefix : String} {w : World κ Memory}

theorem runIn_apply_of_error {m : Mutation} {e : Failure}
    (h : fetched accountPrefix (w.answer m.operator) = .error e) :
    (apply accountPrefix m).runIn w = (.error (.failed e), w.asked m.operator) := by
  rw [apply, runIn_bind, (refreshOne_of_error h).1]

theorem runIn_apply_of_ok {m : Mutation} {r : ValidatorRecord}
    (h : fetched accountPrefix (w.answer m.operator) = .ok r) :
    (apply accountPrefix m).runIn w =
      (.ok r, { w.asked m.operator with store := w.store.carry (m, r) }) := by
  rw [apply, runIn_bind, (refreshOne_of_ok h).1]
  cases m with
  | edited op => rfl
  | created op =>
    cases hs : (w.store.putValidator r).subscription? op with
    | none =>
      have hi : Store.insertSubscription (w.store.putValidator r) (.fresh op) =
          (.ok (), (w.store.putValidator r).putSubscription (.fresh op)) :=
        Memory.insertSubscription_of_none hs
      simp [ensureSubscription, subscription?, Store.findSubscription, hs, hi, Memory.carry,
        Mutation.operator, Except.map]
    | some sub =>
      simp [ensureSubscription, subscription?, Store.findSubscription, hs, Memory.carry,
        Mutation.operator, Except.map]
  | unjailed op =>
    cases hr : r.jailed with
    | true =>
      cases hs : (w.store.putValidator r).subscription? op <;>
        simp [hr, hs, Memory.carry, Mutation.operator]
    | false =>
      cases hs : (w.store.putValidator r).subscription? op with
      | none =>
        simp [restart, subscription?, Store.findSubscription, hr, hs, Memory.carry,
          Mutation.operator]
      | some sub =>
        have hu := Memory.updateTracking_of_some hs sub.tracking.restart
        simp [restart, subscription?, Store.findSubscription, hr, hs, hu, Memory.carry,
          Mutation.operator, Subscription.restarted, Except.map]

/-- A mutation of a scan is carried out, or it leaves no trace in the store. -/
theorem runIn_isolate_apply (accountPrefix : String) (m : Mutation) (w : World κ Memory) :
    let record := fetched accountPrefix (w.answer m.operator)
    (isolate (apply accountPrefix m)).runIn w =
      (.ok record, { w.asked m.operator with
        store := (record.toOption.toList.map (m, ·)).foldl Memory.carry w.store }) := by
  cases h : fetched accountPrefix (w.answer m.operator) with
  | error e => simp [runIn_apply_of_error h, World.asked, Except.toOption]
  | ok r => simp [runIn_apply_of_ok h, Except.toOption]

/-- The mutations of a scan are carried out one after another, each whether or not others fail. -/
theorem runIn_mapM_apply (accountPrefix : String) (ms : List Mutation) (w : World κ Memory) :
    let answered := Chain.answers w.chain (ms.map Mutation.operator)
    let applied := Applied.ofAnswers accountPrefix ms answered.1
    ∃ tried, tried.filterMap id = applied ∧
      (ms.mapM (fun m => do
          return (← isolate (apply accountPrefix m)).toOption.map (m, ·) :
            Mutation → Work κ Memory (Option Applied))).runIn w =
        (.ok tried, { w with
          chain := answered.2, store := applied.foldl Memory.carry w.store }) := by
  induction ms generalizing w with
  | nil => exact ⟨[], rfl, rfl⟩
  | cons m ms ih =>
    -- the others are asked about in the world that the first one leaves, be it carried out or not
    obtain ⟨tried, htried, hrun⟩ := ih ((isolate (apply accountPrefix m)).runIn w).2
    rw [runIn_isolate_apply] at hrun htried
    have hcons := Applied.ofAnswers_cons accountPrefix m ms (w.answer m.operator)
      (Chain.answers (w.asked m.operator).chain (ms.map Mutation.operator)).1
    have hanswers : Chain.answers w.chain ((m :: ms).map Mutation.operator) =
        (w.answer m.operator ::
            (Chain.answers (w.asked m.operator).chain (ms.map Mutation.operator)).1,
          (Chain.answers (w.asked m.operator).chain (ms.map Mutation.operator)).2) := rfl
    refine ⟨(fetched accountPrefix (w.answer m.operator)).toOption.map (m, ·) :: tried, ?_, ?_⟩
    · rw [hanswers, hcons, List.filterMap_cons, htried]
      cases fetched accountPrefix (w.answer m.operator) <;> rfl
    · rw [List.mapM_cons, hanswers, hcons, List.foldl_append]
      simp only [runIn_bind, runIn_isolate_apply, runIn_pure, hrun]
      rfl

/-- A scan of transactions that the chain knows carries out what their mutations say. -/
theorem runIn_scan {height : Nat} {txs : List Transaction}
    (h : (Chain.transactions w.chain height).1 = .ok txs) :
    let ms := Mutation.ofTransactions txs accountPrefix
    let answered := Chain.answers (Chain.transactions w.chain height).2 (ms.map Mutation.operator)
    let applied := Applied.ofAnswers accountPrefix ms answered.1
    (scan accountPrefix height).runIn w =
      (.ok applied, { w with
        chain := answered.2, store := applied.foldl Memory.carry w.store }) := by
  obtain ⟨tried, htried, hrun⟩ := runIn_mapM_apply accountPrefix
    (Mutation.ofTransactions txs accountPrefix)
    { w with chain := (Chain.transactions w.chain height).2 }
  rw [scan]
  simp only [runIn_bind, runIn_ask, h, Except.mapError, hrun, runIn_pure, htried]

/-- The records that a faithful chain gives for mutations are about their operators. -/
theorem operator_of_mem_ofAnswers (hκ : Chain.Faithful κ) (ms : List Mutation) (c : κ) :
    ∀ p ∈ Applied.ofAnswers accountPrefix ms (Chain.answers c (ms.map Mutation.operator)).1,
      p.2.operator = p.1.operator := by
  induction ms generalizing c with
  | nil => simp [Applied.ofAnswers]
  | cons m ms ih =>
    have hanswers : (Chain.answers c ((m :: ms).map Mutation.operator)).1 =
        (Chain.validator c m.operator none).1 ::
          (Chain.answers (Chain.validator c m.operator none).2 (ms.map Mutation.operator)).1 := rfl
    intro p hp
    rw [hanswers, Applied.ofAnswers_cons] at hp
    rcases List.mem_append.mp hp with hp | hp
    · obtain ⟨r, hr, rfl⟩ := List.mem_map.mp hp
      exact operator_of_fetched hκ (eq_ok_of_toOption (Option.mem_toList.mp hr))
    · exact ih _ p hp

/-- Scanning a block is isolated, framed and idempotent. Of the mutations in its transactions those
are carried out, in order, for which the chain reports a validator of which a record can be made,
each with this record. Then the store has for every operator the record it was given last, created
validators have a subscription, and those that left jail start anew with their history and their
followers. Nothing else is different, and the same answers to the same scan change nothing any
more. -/
theorem scan_settles (hκ : Chain.Faithful κ) {height : Nat} {txs : List Transaction}
    (hs : w.store.Sorted) (htxs : (Chain.transactions w.chain height).1 = .ok txs) :
    let ms := Mutation.ofTransactions txs accountPrefix
    let answered := Chain.answers (Chain.transactions w.chain height).2 (ms.map Mutation.operator)
    let applied := Applied.ofAnswers accountPrefix ms answered.1
    ∃ s : Memory,
      (scan accountPrefix height).runIn w =
        (.ok applied, { w with chain := answered.2, store := s }) ∧
      s.Sorted ∧ s.blocks = w.store.blocks ∧
      (∀ operator r, Applied.latest? applied operator = some r →
        s.validator? operator = some r) ∧
      (∀ operator, Applied.Creates applied operator →
        let sub := (w.store.subscription? operator).getD (.fresh operator)
        s.subscription? operator =
          some (if Applied.Frees applied operator then sub.restarted else sub)) ∧
      (∀ operator sub, Applied.Frees applied operator →
        w.store.subscription? operator = some sub →
          s.subscription? operator =
            some { sub with tracking := ⟨0, 1, 0, sub.tracking.history⟩ }) ∧
      (∀ operator, ¬ Applied.Creates applied operator → ¬ Applied.Frees applied operator →
        s.subscription? operator = w.store.subscription? operator) ∧
      (∀ operator, (∀ p ∈ applied, p.1.operator ≠ operator) →
        s.validator? operator = w.store.validator? operator ∧
          s.subscription? operator = w.store.subscription? operator) ∧
      ∀ w' : World κ Memory, w'.store = s → (Chain.transactions w'.chain height).1 = .ok txs →
        let again := Chain.answers (Chain.transactions w'.chain height).2 (ms.map Mutation.operator)
        again.1 = answered.1 →
          (scan accountPrefix height).runIn w' = (.ok applied, { w' with chain := again.2 }) := by
  intro ms answered applied
  have hops : ∀ p ∈ applied, p.2.operator = p.1.operator :=
    operator_of_mem_ofAnswers hκ ms (Chain.transactions w.chain height).2
  have hvalidator := Memory.validator?_foldl_carry hops w.store
  have hsub := Memory.subscription?_foldl_carry applied w.store
  refine ⟨applied.foldl Memory.carry w.store, runIn_scan htxs, hs.foldl_carry applied,
    Memory.blocks_foldl_carry _ _, ?_, ?_, ?_, ?_, ?_, ?_⟩
  · intro operator r hr
    rw [hvalidator, hr, Option.some_or]
  · intro operator hc sub
    rw [hsub, Applied.settle, if_pos hc]
    split <;> rfl
  · intro operator sub hf hold
    rw [hsub, Applied.settle, if_pos hf, hold]
    split <;> rfl
  · intro operator hc hf
    rw [hsub, Applied.settle_eq_self hc hf]
  · intro operator hne
    -- what was carried out is about other operators, so it neither creates nor frees this one
    have hc : ¬ Applied.Creates applied operator := by
      rintro ⟨p, hp, hm⟩
      exact hne p hp (by rw [hm]; rfl)
    have hf : ¬ Applied.Frees applied operator := by
      rintro ⟨p, hp, hm, -⟩
      exact hne p hp (by rw [hm]; rfl)
    exact ⟨by rw [hvalidator, Applied.latest?_eq_none hne, Option.none_or],
      by rw [hsub, Applied.settle_eq_self hc hf]⟩
  · intro w' hw' htxs' again hanswers
    rw [runIn_scan htxs', hanswers, hw', hs.foldl_carry_twice hops, ← hw']

end Registry

/-! ## A block with two mutations -/

namespace Alpha

/-- A block in which another validator, which the chain does not know, is created and this one
leaves jail. -/
def release : List Transaction :=
  [⟨"AA", true, [
    ⟨0, [⟨"message", [⟨"action", "create_validator"⟩]⟩,
      ⟨"create_validator", [⟨"validator", "cosmosvaloper1"⟩]⟩]⟩,
    ⟨1, [⟨"message", [⟨"action", "unjail"⟩, ⟨"sender", operator⟩]⟩]⟩]⟩]

/-- The world in which this validator is followed and missed the block before. -/
def missing : World Scripted Memory :=
  World.start .standard ((chain false).setTransactions 9 release)
    { Memory.empty with subscriptions := [⟨operator, ⟨1, 1, 8, ⟨[⟨8, false⟩]⟩⟩, ["chat-1"]⟩] }

/-- What the chain says about this validator. -/
def record : ValidatorRecord where
  operator := operator
  consensus := "72CD6E8422C407FB6D098690F1130B7DED7EC2F7"
  selfDelegation := "cosmos1qyqszqgpqyqszqgpqyqszqgpqyqszqgpjnp7du"
  key := "AQEBAQEBAQEBAQEBAQEBAQEBAQEBAQEBAQEBAQEBAQE="
  jailed := false
  description := { Description.blank with moniker := "Alpha" }

end Alpha

/-- The mutation that cannot be carried out leaves no trace, the other one clears the streak, and a
second scan tells the same. -/
theorem Registry.scan_settles_released :
    ∃ s : Memory,
      (scan "cosmos" 9).runIn Alpha.missing =
        (.ok [(.unjailed Alpha.operator, Alpha.record)], { Alpha.missing with store := s }) ∧
      s.validator? Alpha.operator = some Alpha.record ∧
      s.subscription? Alpha.operator =
        some ⟨Alpha.operator, ⟨0, 1, 0, ⟨[⟨8, false⟩]⟩⟩, ["chat-1"]⟩ ∧
      s.validator? "cosmosvaloper1" = none ∧ s.subscription? "cosmosvaloper1" = none ∧
      (scan "cosmos" 9).runIn { Alpha.missing with store := s } =
        (.ok [(.unjailed Alpha.operator, Alpha.record)], { Alpha.missing with store := s }) := by
  have hsorted : Alpha.missing.store.Sorted := ⟨List.pairwise_singleton _ _, Rows.sorted_nil⟩
  have htxs : (Chain.transactions Alpha.missing.chain 9).1 = .ok Alpha.release := by
    decide +kernel
  obtain ⟨s, hrun, -, -, hlatest, -, hfrees, -, hframe, hagain⟩ :=
    @scan_settles Scripted _ "cosmos" Alpha.missing Scripted.faithful 9 _ hsorted htxs
  have happlied : Applied.ofAnswers "cosmos" (Mutation.ofTransactions Alpha.release "cosmos")
      (Chain.answers (Chain.transactions Alpha.missing.chain 9).2
        ((Mutation.ofTransactions Alpha.release "cosmos").map Mutation.operator)).1 =
      [(.unjailed Alpha.operator, Alpha.record)] := by
    decide +kernel
  rw [happlied] at hrun hlatest hfrees hframe hagain
  obtain ⟨hvalidator, hsub⟩ := hframe "cosmosvaloper1" (by decide)
  have hfrees := hfrees Alpha.operator _ (by decide) rfl
  exact ⟨s, hrun, hlatest _ _ (by decide), hfrees, hvalidator, hsub,
    hagain { Alpha.missing with store := s } rfl htxs rfl⟩

end Liveness
