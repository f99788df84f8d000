import Liveness.Proofs.Following
import Liveness.Proofs.Scan

/-!
# What a bootstrap makes of a store

A bootstrap writes the records of an answer of the chain one after another, and then enrols every
operator that has a record. What it leaves is told by the store before and the answer alone, and
there is only one store of which that is true. It is true of that store and itself as well, so a
second bootstrap with the same answer changes nothing.
-/

namespace Liveness

open Work

namespace Registry

variable {accountPrefix : String} {answer : List Snapshot} {operator : String}

/-- The record of the last validator of an answer that has this operator and a record. -/
def latestRecord? (accountPrefix : String) (answer : List Snapshot) (operator : String) :
    Option ValidatorRecord :=
  answer.reverse.findSome? fun s =>
    if s.operator = operator then (recordOf accountPrefix s).toOption else none

/-- The records of an answer, in its order. -/
def records (accountPrefix : String) (answer : List Snapshot) : List ValidatorRecord :=
  answer.filterMap fun s => (recordOf accountPrefix s).toOption

theorem latestRecord?_cons (s : Snapshot) :
    latestRecord? accountPrefix (s :: answer) operator =
      (latestRecord? accountPrefix answer operator).or
        (if s.operator = operator then (recordOf accountPrefix s).toOption else none) := by
  rw [latestRecord?, latestRecord?, List.reverse_cons, List.findSome?_append,
    List.findSome?_singleton]

/-- Of the records that are written, the last one of an operator is found. -/
theorem find?_foldl_records (rows : List ValidatorRecord) :
    Rows.find? ValidatorRecord.operator
        ((records accountPrefix answer).foldl (Rows.put ValidatorRecord.operator) rows) operator =
      (latestRecord? accountPrefix answer operator).or
        (Rows.find? ValidatorRecord.operator rows operator) := by
  induction answer generalizing rows with
  | nil => rfl
  | cons s rest ih =>
    rw [latestRecord?_cons, Option.or_assoc]
    cases hr : recordOf accountPrefix s with
    | error e =>
      have hrecords : records accountPrefix (s :: rest) = records accountPrefix rest := by
        simp [records, hr, Except.toOption]
      rw [hrecords, ih]
      simp [Except.toOption]
    | ok r =>
      have hrecords : records accountPrefix (s :: rest) = r :: records accountPrefix rest := by
        simp [records, hr, Except.toOption]
      have hop : r.operator = s.operator := operator_of_recordOf hr
      rw [hrecords, List.foldl_cons, ih, Rows.find?_put, hop]
      congr 1
      split_ifs <;> rfl

end Registry

/-! ## What is left -/

/-- What a bootstrap makes of a store, and how many subscriptions are new. -/
structure Bootstrapped (accountPrefix : String) (answer : List Snapshot) (before after : Memory)
    (created : Nat) : Prop where
  sorted : after.Sorted
  blocks : after.blocks = before.blocks
  records : ∀ operator, after.validator? operator =
    (Registry.latestRecord? accountPrefix answer operator).or (before.validator? operator)
  enrolled : ∀ r ∈ after.validators, after.subscription? r.operator ≠ none
  kept : ∀ operator, ∀ sub ∈ before.subscription? operator, after.subscription? operator = some sub
  fresh : ∀ sub ∈ after.subscriptions, before.subscription? sub.operator = none →
    sub = .fresh sub.operator ∧ after.validator? sub.operator ≠ none
  created : (after.subscriptions.filter fun sub =>
    (before.subscription? sub.operator).isNone).length = created

namespace Bootstrapped

variable {accountPrefix : String} {answer : List Snapshot} {before after after' : Memory}
  {created created' : Nat}

/-- Whoever has a record has a subscription: the one that was there before, or a fresh one. -/
theorem subscription?_eq (h : Bootstrapped accountPrefix answer before after created)
    (operator : String) :
    after.subscription? operator = (before.subscription? operator).or
      (if (after.validator? operator).isNone then none else some (.fresh operator)) := by
  cases hs : before.subscription? operator with
  | some sub => exact h.kept operator sub hs
  | none =>
    rw [Option.none_or]
    cases hsub : after.subscription? operator with
    | some sub =>
      obtain ⟨hmem, rfl⟩ := h.sorted.subscription?_eq_some_iff.mp hsub
      obtain ⟨hfresh, hrecord⟩ := h.fresh sub hmem hs
      rw [if_neg (by simpa using hrecord), ← hfresh]
    | none =>
      cases hr : after.validator? operator with
      | none => rfl
      | some r =>
        have hne := h.enrolled r (Rows.mem_of_find? hr)
        rw [Memory.operator_of_validator? hr] at hne
        exact absurd hsub hne

/-- The store before and the answer tell all of it. -/
theorem unique (h : Bootstrapped accountPrefix answer before after created)
    (h' : Bootstrapped accountPrefix answer before after' created') :
    after = after' ∧ created = created' := by
  have hrecords : ∀ operator, after.validator? operator = after'.validator? operator :=
    fun operator => (h.records operator).trans (h'.records operator).symm
  have hafter : after = after' := by
    refine h.sorted.ext h'.sorted (fun operator => ?_) hrecords (h.blocks.trans h'.blocks.symm)
    rw [h.subscription?_eq, h'.subscription?_eq, hrecords]
  subst hafter
  exact ⟨rfl, h.created.symm.trans h'.created⟩

/-- What a bootstrap leaves it may leave again. -/
theorem refl (h : Bootstrapped accountPrefix answer before after created) :
    Bootstrapped accountPrefix answer after after 0 where
  sorted := h.sorted
  blocks := rfl
  records := by
    intro operator
    rw [h.records operator, ← Option.or_assoc, Option.or_self]
  enrolled := h.enrolled
  kept := fun _ _ hsub => hsub
  fresh := by
    intro sub hsub hnone
    have hsome := h.sorted.subscription?_eq_some_iff.mpr ⟨hsub, rfl⟩
    rw [hsome] at hnone
    cases hnone
  created := by
    rw [List.length_eq_zero_iff, List.filter_eq_nil_iff]
    intro sub hsub
    rw [h.sorted.subscription?_eq_some_iff.mpr ⟨hsub, rfl⟩]
    simp

end Bootstrapped

/-! ## The rows that are written -/

namespace Memory

variable {s : Memory} {rs : List ValidatorRecord} {operator : String}

/-- The operators of records that have no subscription. -/
def newcomers (s : Memory) (rs : List ValidatorRecord) : List String :=
  (rs.map (·.operator)).filter fun operator => (s.subscription? operator).isNone

/-- The store with records written one after another. -/
def putValidators (s : Memory) (rs : List ValidatorRecord) : Memory :=
  { s with validators := rs.foldl (Rows.put ValidatorRecord.operator) s.validators }

/-- The store with a fresh subscription for each of some operators. -/
def enrolAll (s : Memory) (operators : List String) : Memory :=
  { s with subscriptions :=
      (operators.map Subscription.fresh).foldl (Rows.put Subscription.operator) s.subscriptions }

theorem mem_newcomers :
    operator ∈ s.newcomers rs ↔
      (∃ r ∈ rs, r.operator = operator) ∧ s.subscription? operator = none := by
  simp [newcomers]

theorem countP_isNone :
    (rs.map fun r => (s.subscription? r.operator).isNone).countP id =
      (s.newcomers rs).length := by
  rw [newcomers, ← List.countP_eq_length_filter, List.countP_map, List.countP_map]
  rfl

theorem newcomers_putSubscription {sub : Subscription} (h : ∀ r ∈ rs, r.operator ≠ sub.operator) :
    (s.putSubscription sub).newcomers rs = s.newcomers rs := by
  refine List.filter_congr fun operator hop => ?_
  obtain ⟨r, hr, rfl⟩ := List.mem_map.mp hop
  rw [subscription?_putSubscription, if_neg (h r hr).symm]

/-- Newcomers stand behind the subscriptions that are there, but for the order. -/
theorem Sorted.enrolAll_newcomers (h : s.Sorted) (hn : (rs.map (·.operator)).Nodup) :
    (s.enrolAll (s.newcomers rs)).subscriptions.Perm
      (s.subscriptions ++ (s.newcomers rs).map Subscription.fresh) := by
  refine Rows.foldl_put_perm h.subscriptions ?_
  have hkeys : ((s.newcomers rs).map Subscription.fresh).map Subscription.operator =
      s.newcomers rs := by
    rw [List.map_map]
    exact List.map_id _
  rw [List.map_append, hkeys]
  refine List.nodup_append.mpr ⟨Rows.nodup_keys h.subscriptions, hn.filter _, ?_⟩
  intro operator hold operator' hnew heq
  obtain ⟨sub, hsub, hop⟩ := List.mem_map.mp hold
  have hsome := h.subscription?_eq_some_iff.mpr ⟨hsub, hop⟩
  rw [heq, (mem_newcomers.mp hnew).2] at hsome
  cases hsome

/-- Of those that are there afterwards the newcomers are new. -/
theorem Sorted.length_filter_isNone (h : s.Sorted) {subs : List Subscription}
    (hperm : subs.Perm (s.subscriptions ++ (s.newcomers rs).map Subscription.fresh)) :
    (subs.filter fun sub => (s.subscription? sub.operator).isNone).length =
      (s.newcomers rs).length := by
  have hold : s.subscriptions.filter (fun sub => (s.subscription? sub.operator).isNone) = [] := by
    refine List.filter_eq_nil_iff.mpr fun sub hsub => ?_
    rw [h.subscription?_eq_some_iff.mpr ⟨hsub, rfl⟩]
    exact Bool.false_ne_true
  have hnew : ((s.newcomers rs).map Subscription.fresh).filter
      (fun sub => (s.subscription? sub.operator).isNone) =
      (s.newcomers rs).map Subscription.fresh := by
    refine List.filter_eq_self.mpr fun sub hsub => ?_
    obtain ⟨operator, hop, rfl⟩ := List.mem_map.mp hsub
    exact Option.isNone_iff_eq_none.mpr (mem_newcomers.mp hop).2
  rw [(hperm.filter _).length_eq, List.filter_append, hold, hnew, List.nil_append,
    List.length_map]

end Memory

namespace Registry

variable {κ : Type} {accountPrefix : String} {w : World κ Memory}

theorem runIn_forM_upsert (rs : List ValidatorRecord) :
    (rs.forM fun r => (commit (Store.upsertValidator · r) : Work κ Memory Unit)).runIn w =
      (.ok (), { w with store := w.store.putValidators rs }) := by
  induction rs generalizing w with
  | nil => rfl
  | cons r rest ih =>
    rw [List.forM, runIn_bind, runIn_commit]
    exact ih

/-- The enrolments of distinct operators tell which of them are newcomers. -/
theorem runIn_mapM_ensureSubscription {rs : List ValidatorRecord}
    (hn : (rs.map (·.operator)).Nodup) :
    (rs.mapM fun r => (ensureSubscription r.operator : Work κ Memory Bool)).runIn w =
      (.ok (rs.map fun r => (w.store.subscription? r.operator).isNone),
        { w with store := w.store.enrolAll (w.store.newcomers rs) }) := by
  induction rs generalizing w with
  | nil => rfl
  | cons r rest ih =>
    obtain ⟨hr, hrest⟩ := List.nodup_cons.mp hn
    have hne : ∀ r' ∈ rest, r'.operator ≠ r.operator :=
      fun r' hr' heq => hr (List.mem_map.mpr ⟨r', hr', heq⟩)
    simp only [List.mapM_cons, runIn_bind, runIn_ensureSubscription, ih hrest, runIn_pure]
    cases hs : w.store.subscription? r.operator with
    | some sub =>
      have hnew : w.store.newcomers (r :: rest) = w.store.newcomers rest := by
        simp [Memory.newcomers, hs]
      rw [Memory.enrol_of_some hs, hnew, List.map_cons, hs]
    | none =>
      have hnew : w.store.newcomers (r :: rest) = r.operator :: w.store.newcomers rest := by
        simp [Memory.newcomers, hs]
      have hothers : (rest.map fun r' =>
            ((w.store.putSubscription (.fresh r.operator)).subscription? r'.operator).isNone) =
          rest.map fun r' => (w.store.subscription? r'.operator).isNone := by
        refine List.map_congr_left fun r' hr' => ?_
        have hop : (Subscription.fresh r.operator).operator ≠ r'.operator := (hne r' hr').symm
        rw [Memory.subscription?_putSubscription, if_neg hop]
      rw [Memory.enrol_of_none hs, Memory.newcomers_putSubscription hne, hothers, hnew,
        List.map_cons, hs]
      rfl

/-- The store after a bootstrap. -/
def bootstrapped (accountPrefix : String) (answer : List Snapshot) (s : Memory) : Memory :=
  let s := s.putValidators (records accountPrefix answer)
  s.enrolAll (s.newcomers s.validators)

variable [Chain κ] {answer : List Snapshot}

theorem runIn_bootstrap (hs : w.store.Sorted) (h : (Chain.validators w.chain).1 = .ok answer) :
    (bootstrap accountPrefix).runIn w =
      (.ok (w.store.newcomers (bootstrapped accountPrefix answer w.store).validators).length,
        { w with
          chain := (Chain.validators w.chain).2
          store := bootstrapped accountPrefix answer w.store }) := by
  have hrefresh : (refreshAll accountPrefix).runIn w =
      (.ok (records accountPrefix answer).length,
        { w with
          chain := (Chain.validators w.chain).2
          store := w.store.putValidators (records accountPrefix answer) }) := by
    rw [refreshAll, runIn_bind, runIn_ask, h]
    simp only [Except.mapError, runIn_bind]
    rw [← records, runIn_forM_upsert]
    rfl
  have hrows : (((w.store.putValidators (records accountPrefix answer)).validators).map
      (·.operator)).Nodup :=
    Rows.nodup_keys (Rows.sorted_foldl_put hs.validators)
  rw [bootstrap, runIn_bind, hrefresh]
  simp only [runIn_bind, runIn_fetch, Store.allValidators, runIn_mapM_ensureSubscription hrows,
    runIn_pure, Memory.countP_isNone]
  rfl

/-- The rows that are written are what is told of a bootstrap. -/
theorem bootstrapped_bootstrap (accountPrefix : String) (answer : List Snapshot) {s : Memory}
    (hs : s.Sorted) :
    Bootstrapped accountPrefix answer s (bootstrapped accountPrefix answer s)
      (s.newcomers (bootstrapped accountPrefix answer s).validators).length := by
  have hrecords : ∀ operator, (bootstrapped accountPrefix answer s).validator? operator =
      (latestRecord? accountPrefix answer operator).or (s.validator? operator) :=
    fun _ => find?_foldl_records s.validators
  have hsorted : (bootstrapped accountPrefix answer s).Sorted :=
    ⟨Rows.sorted_foldl_put hs.subscriptions, Rows.sorted_foldl_put hs.validators⟩
  have hperm : (bootstrapped accountPrefix answer s).subscriptions.Perm (s.subscriptions ++
      (s.newcomers (bootstrapped accountPrefix answer s).validators).map Subscription.fresh) :=
    hs.enrolAll_newcomers (Rows.nodup_keys hsorted.validators)
  have hblocks : (bootstrapped accountPrefix answer s).blocks = s.blocks := rfl
  -- from here on the rows matter only through these facts
  generalize bootstrapped accountPrefix answer s = after at hrecords hsorted hperm hblocks ⊢
  have hfound : ∀ sub ∈ after.subscriptions, after.subscription? sub.operator = some sub :=
    fun sub hsub => hsorted.subscription?_eq_some_iff.mpr ⟨hsub, rfl⟩
  have hkept : ∀ operator, ∀ sub ∈ s.subscription? operator,
      after.subscription? operator = some sub := by
    intro operator sub hsub
    obtain ⟨hmem, rfl⟩ := hs.subscription?_eq_some_iff.mp hsub
    exact hfound sub (hperm.mem_iff.mpr (List.mem_append_left _ hmem))
  exact {
    sorted := hsorted
    blocks := hblocks
    records := hrecords
    enrolled := by
      intro r hr
      cases hsub : s.subscription? r.operator with
      | some sub => simp [hkept r.operator sub hsub]
      | none =>
        have hnew : r.operator ∈ s.newcomers after.validators :=
          Memory.mem_newcomers.mpr ⟨⟨r, hr, rfl⟩, hsub⟩
        have hmem : Subscription.fresh r.operator ∈ after.subscriptions :=
          hperm.mem_iff.mpr (List.mem_append_right _ (List.mem_map_of_mem hnew))
        have hfresh := hfound _ hmem
        rw [show (Subscription.fresh r.operator).operator = r.operator from rfl] at hfresh
        simp [hfresh]
    kept := hkept
    fresh := by
      intro sub hsub hnone
      rcases List.mem_append.mp (hperm.mem_iff.mp hsub) with hold | hnew
      · rw [hs.subscription?_eq_some_iff.mpr ⟨hold, rfl⟩] at hnone
        cases hnone
      · obtain ⟨operator, hop, rfl⟩ := List.mem_map.mp hnew
        obtain ⟨⟨r, hr, hrop⟩, -⟩ := Memory.mem_newcomers.mp hop
        refine ⟨rfl, fun hnone => ?_⟩
        exact Rows.find?_eq_none_iff.mp hnone r hr hrop
    created := hs.length_filter_isNone hperm }

/-- If the chain does not tell its validators, a bootstrap leaves the store as it is. Otherwise the
operators of the answer have the records of their last validators that have one, other records are
as they were, whoever has a record has a subscription, those that were there are as they were, and
the others are fresh ones, which are counted. A second bootstrap with the same answer finds nothing
to do. -/
theorem bootstrap_completes (accountPrefix : String) (w : World κ Memory) (hs : w.store.Sorted) :
    (∀ e, (Chain.validators w.chain).1 = .error e →
      (bootstrap accountPrefix).runIn w =
        (.error (.failed e), { w with chain := (Chain.validators w.chain).2 })) ∧
    ∀ answer, (Chain.validators w.chain).1 = .ok answer →
      ∃ s created,
        (bootstrap accountPrefix).runIn w =
          (.ok created, { w with chain := (Chain.validators w.chain).2, store := s }) ∧
        Bootstrapped accountPrefix answer w.store s created ∧
        ∀ w' : World κ Memory, w'.store = s → (Chain.validators w'.chain).1 = .ok answer →
          (bootstrap accountPrefix).runIn w' =
            (.ok 0, { w' with chain := (Chain.validators w'.chain).2 }) := by
  constructor
  · intro e he
    simp [bootstrap, refreshAll, he, Except.mapError]
  · intro answer hanswer
    have hfirst := bootstrapped_bootstrap accountPrefix answer hs
    refine ⟨_, _, runIn_bootstrap hs hanswer, hfirst, ?_⟩
    rintro w' hw' hanswer'
    have hs' : w'.store.Sorted := hw' ▸ hfirst.sorted
    have hsecond := bootstrapped_bootstrap accountPrefix answer hs'
    obtain ⟨hstore, hcreated⟩ := hsecond.unique (hw' ▸ hfirst.refl)
    rw [runIn_bootstrap hs' hanswer', hcreated, hstore]

end Registry

namespace Alpha

/-- A chain that tells this validator twice, at first in jail, and between them one whose operator
address is none; of another validator there is only a record. -/
def crowd : World Scripted Memory :=
  World.start .standard
    { Scripted.empty with
      snapshots := (chain true).snapshots ++
        (chain false).snapshots.map ({ · with operator := "cosmosvaloper1" }) ++
        (chain false).snapshots }
    { Memory.empty with
      subscriptions := [⟨operator, ⟨1, 1, 8, ⟨[⟨8, false⟩]⟩⟩, ["chat-1"]⟩]
      validators := [{ record with operator := "cosmosvaloper0" }] }

end Alpha

namespace Registry

/-- The validator has the record of its second mention and keeps its subscription, the other one
gets a subscription, and the one between them gets nothing. -/
theorem bootstrap_completes_crowd :
    ∃ s : Memory,
      (bootstrap "cosmos").runIn Alpha.crowd = (.ok 1, { Alpha.crowd with store := s }) ∧
      s.validator? Alpha.operator = some Alpha.record ∧
      s.subscription? Alpha.operator =
        some ⟨Alpha.operator, ⟨1, 1, 8, ⟨[⟨8, false⟩]⟩⟩, ["chat-1"]⟩ ∧
      s.validator? "cosmosvaloper0" = some { Alpha.record with operator := "cosmosvaloper0" } ∧
      s.subscription? "cosmosvaloper0" = some (.fresh "cosmosvaloper0") ∧
      s.validator? "cosmosvaloper1" = none ∧ s.subscription? "cosmosvaloper1" = none ∧
      (bootstrap "cosmos").runIn { Alpha.crowd with store := s } =
        (.ok 0, { Alpha.crowd with store := s }) := by
  have hsorted : Alpha.crowd.store.Sorted :=
    ⟨List.pairwise_singleton _ _, List.pairwise_singleton _ _⟩
  obtain ⟨hone, hrecord, hother, hnone, hsub, hothersub, hnosub⟩ :
      ((bootstrap "cosmos").runIn Alpha.crowd).1 = .ok 1 ∧
      latestRecord? "cosmos" Alpha.crowd.chain.snapshots Alpha.operator = some Alpha.record ∧
      latestRecord? "cosmos" Alpha.crowd.chain.snapshots "cosmosvaloper0" = none ∧
      latestRecord? "cosmos" Alpha.crowd.chain.snapshots "cosmosvaloper1" = none ∧
      Alpha.crowd.store.subscription? Alpha.operator =
        some ⟨Alpha.operator, ⟨1, 1, 8, ⟨[⟨8, false⟩]⟩⟩, ["chat-1"]⟩ ∧
      Alpha.crowd.store.subscription? "cosmosvaloper0" = none ∧
      Alpha.crowd.store.subscription? "cosmosvaloper1" = none := by
    decide +kernel
  obtain ⟨s, created, hrun, hs, hagain⟩ :=
    (bootstrap_completes "cosmos" Alpha.crowd hsorted).2 Alpha.crowd.chain.snapshots rfl
  obtain rfl : created = 1 := by
    rw [hrun] at hone
    exact Except.ok.inj hone
  have hvalidator := hs.records
  have hsubscription := hs.subscription?_eq
  refine ⟨s, hrun, ?_, ?_, ?_, ?_, ?_, ?_, hagain { Alpha.crowd with store := s } rfl rfl⟩
  · rw [hvalidator, hrecord, Option.some_or]
  · rw [hsubscription, hsub, Option.some_or]
  · rw [hvalidator, hother]
    rfl
  · rw [hsubscription, hothersub, hvalidator, hother]
    rfl
  · rw [hvalidator, hnone]
    rfl
  · rw [hsubscription, hnosub, hvalidator, hnone]
    rfl

end Registry

end Liveness
