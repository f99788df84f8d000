import Liveness.Proofs.Backends
import Liveness.Proofs.Independence
import Liveness.Proofs.Scan
import Liveness.Report.Pass

/-!
# Reports that do not depend on each other

A pass asks the chain for each validator that is followed, one task after another in some order.
Each report follows from its own subscription and record, from what the chain answers about its
validator and the pool, and from the retained blocks. Whatever becomes of the others, it is sent
once to each of those who follow, or not at all if the record is missing or a query fails.
-/

namespace Liveness

open Work

/-! ## What a pass finds in a store -/

/-- The store answers the queries of a pass as the memory store does. -/
structure Store.ReadsAs {σ : Type} [Store σ] (s : σ) (m : Memory) : Prop where
  allSubscriptions : Store.allSubscriptions s = .ok m.subscriptions
  findValidator : ∀ operator, Store.findValidator s operator = .ok (m.validator? operator)
  blocks : Store.blocks s = .ok m.blocks

theorem Memory.readsAs (m : Memory) : Store.ReadsAs m m := ⟨rfl, fun _ => rfl, rfl⟩

/-- A table store that mirrors a memory store reads as it. -/
theorem Mirrors.readsAs {m : Memory} {t : Table} (h : Mirrors m t) : Store.ReadsAs t m where
  allSubscriptions := by
    show t.allSubscriptions.mapError _ = _
    rw [h.allSubscriptions]
    rfl
  findValidator operator := by
    show (t.findValidator operator).mapError _ = _
    rw [h.findValidator]
    rfl
  blocks := congrArg Except.ok h.readBlocks

/-- The subscriptions that somebody follows. -/
def Memory.followed (m : Memory) : List Subscription := m.subscriptions.filter (·.hasSubscribers)

theorem Memory.Sorted.followed {m : Memory} (h : m.Sorted) :
    Rows.Sorted Subscription.operator m.followed :=
  h.subscriptions.filter _

namespace Report

/-! ## Queries -/

/-- What the chain answers about a validator and the pool at both ends of a report. -/
structure Answers where
  /-- The validator at the start. -/
  before : Snapshot
  /-- The validator at the end. -/
  after : Snapshot
  /-- The pool at the start. -/
  poolBefore : StakingPool
  /-- The pool at the end. -/
  poolAfter : StakingPool

section Queries

variable {κ : Type} [Chain κ] (m : Memory) (interval height : Nat)

/-- The queries for a report, one after another until one fails. -/
def survey (operator : String) (start height : Nat) (c : κ) : Except Failure Answers × κ :=
  match Chain.validator c operator (some start) with
  | (.error f, c) => (.error f, c)
  | (.ok before, c) =>
    match Chain.validator c operator (some height) with
    | (.error f, c) => (.error f, c)
    | (.ok after, c) =>
      match Chain.stakingPool c (some start) with
      | (.error f, c) => (.error f, c)
      | (.ok poolBefore, c) =>
        match Chain.stakingPool c (some height) with
        | (.error f, c) => (.error f, c)
        | (.ok poolAfter, c) => (.ok ⟨before, after, poolBefore, poolAfter⟩, c)

/-- What the chain answers for a subscription, at the height of the report and one interval earlier
but not before the first height, if its validator has a record and no query fails. -/
def consult (sub : Subscription) (c : κ) : Option Answers × κ :=
  match m.validator? sub.operator with
  | none => (none, c)
  | some _ =>
    let (r, c) := survey sub.operator (max (height - interval) 1) height c
    (r.toOption, c)

/-- What the chain answers for subscriptions, one after another. -/
def consultAll : List Subscription → κ → List (Subscription × Option Answers) × κ
  | [], c => ([], c)
  | sub :: rest, c =>
    let (answers, c) := consult m interval height sub c
    let (others, c) := consultAll rest c
    ((sub, answers) :: others, c)

/-- What the chain answers for an operator when the subscriptions have their turn in this order. -/
def answersTo (order : List Subscription) (c : κ) (operator : String) : Option Answers :=
  ((consultAll m interval height order c).1.find? (·.1.operator == operator)).bind (·.2)

/-- The queries for reports leave the chain as it is. -/
structure Unmoved (c : κ) : Prop where
  validator : ∀ operator h, (Chain.validator c operator h).2 = c
  stakingPool : ∀ h, (Chain.stakingPool c h).2 = c

theorem Unmoved.snd_survey {c : κ} (hc : Unmoved c) (operator : String) (start : Nat) :
    (survey operator start height c).2 = c := by
  have hbefore := hc.validator operator (some start)
  have hafter := hc.validator operator (some height)
  have hpoolBefore := hc.stakingPool (some start)
  have hpoolAfter := hc.stakingPool (some height)
  unfold survey
  rcases h₁ : Chain.validator c operator (some start) with ⟨_ | before, c₁⟩ <;>
    obtain rfl : c₁ = c := (congrArg Prod.snd h₁).symm.trans hbefore
  · rfl
  dsimp only
  rcases h₂ : Chain.validator c₁ operator (some height) with ⟨_ | after, c₂⟩ <;>
    obtain rfl : c₂ = c₁ := (congrArg Prod.snd h₂).symm.trans hafter
  · rfl
  dsimp only
  rcases h₃ : Chain.stakingPool c₂ (some start) with ⟨_ | poolBefore, c₃⟩ <;>
    obtain rfl : c₃ = c₂ := (congrArg Prod.snd h₃).symm.trans hpoolBefore
  · rfl
  dsimp only
  rcases h₄ : Chain.stakingPool c₃ (some height) with ⟨_ | poolAfter, c₄⟩ <;>
    exact (congrArg Prod.snd h₄).symm.trans hpoolAfter

theorem Unmoved.snd_consult {c : κ} (hc : Unmoved c) (sub : Subscription) :
    (consult m interval height sub c).2 = c := by
  rw [consult]
  cases m.validator? sub.operator with
  | none => rfl
  | some record => exact hc.snd_survey height sub.operator _

end Queries

/-! ## Tasks -/

/-- The report for a subscription that the chain gave these answers for. -/
def report? (m : Memory) (interval height : Nat) (sub : Subscription) (answers : Option Answers) :
    Option Report :=
  (m.validator? sub.operator).bind fun record => answers.map fun a =>
    build sub record m.blocks height interval a.before a.after a.poolBefore a.poolAfter

/-- What is sent for a subscription. -/
def sent? {σ : Type} (m : Memory) (interval height : Nat) (p : Subscription × Option Answers) :
    Option (Effect σ) :=
  (report? m interval height p.1 p.2).map fun r => .sent p.1.subscribers (.report r)

section Tasks

variable {κ σ : Type} [Chain κ] [Store σ]

/-- The tasks of a pass, one after another in this order, and the number of those that sent a
report. -/
def sendAll (blocks : List BlockRecord) (interval height : Nat) (order : List Subscription) :
    Work κ σ Nat := do
  let sent ← order.mapM fun sub => attempt (send blocks height interval sub)
  if sent.any fun r => r matches .error .hung then throw .hung
  return sent.countP succeeded

/-- A pass does its tasks in the order of the subscriptions. -/
theorem pass_eq (interval height : Nat) : (pass interval height : Work κ σ Nat) = (do
    let subs ← fetch Store.allSubscriptions
    let blocks ← fetch Store.blocks
    sendAll blocks interval height (subs.filter (·.hasSubscribers))) := rfl

variable {m : Memory} {w : World κ σ} (interval height : Nat)

/-- The report of a validator with a record follows from what the survey finds. -/
theorem ofSubscription_of_record (h : Store.ReadsAs w.store m) {sub : Subscription}
    {record : ValidatorRecord} (hr : m.validator? sub.operator = some record) :
    let found := survey sub.operator (max (height - interval) 1) height w.chain
    (ofSubscription sub m.blocks height interval).runIn w =
        ((found.1.mapError Stop.failed).map fun a =>
          build sub record m.blocks height interval a.before a.after a.poolBefore a.poolAfter,
        { w with chain := found.2 }) ∧
      (ofSubscription sub m.blocks height interval).effects w = [] := by
  intro found
  simp only [found, ofSubscription, startHeight, survey, runIn_bind, runIn_fetch, effects_bind,
    effects_fetch, h.findValidator, hr, runIn_ask, effects_ask]
  rcases Chain.validator w.chain sub.operator (some (max (height - interval) 1)) with
    ⟨_ | before, c₁⟩
  · exact ⟨rfl, rfl⟩
  simp only [Except.mapError]
  rcases Chain.validator c₁ sub.operator (some height) with ⟨_ | after, c₂⟩
  · exact ⟨rfl, rfl⟩
  dsimp only [Except.mapError]
  rcases Chain.stakingPool c₂ (some (max (height - interval) 1)) with ⟨_ | poolBefore, c₃⟩
  · exact ⟨rfl, rfl⟩
  dsimp only [Except.mapError]
  rcases Chain.stakingPool c₃ (some height) with ⟨_ | poolAfter, c₄⟩
  · exact ⟨rfl, rfl⟩
  exact ⟨rfl, rfl⟩

/-- There is a report if there is a record and all answers, and else the task fails. -/
theorem ofSubscription_cases (h : Store.ReadsAs w.store m) (sub : Subscription) :
    let c := consult m interval height sub w.chain
    (ofSubscription sub m.blocks height interval).effects w = [] ∧
      ((∃ r, report? m interval height sub c.1 = some r ∧
          (ofSubscription sub m.blocks height interval).runIn w =
            (.ok r, { w with chain := c.2 })) ∨
        ∃ f, report? m interval height sub c.1 = none ∧
          (ofSubscription sub m.blocks height interval).runIn w =
            (.error (.failed f), { w with chain := c.2 })) := by
  intro c
  cases hr : m.validator? sub.operator with
  | none =>
    have hc : c = (none, w.chain) := by simp only [c, consult, hr]
    rw [hc]
    refine ⟨?_, .inr ⟨Store.noValidator sub.operator, ?_, ?_⟩⟩
    · simp [ofSubscription, h.findValidator, hr]
    · simp [report?]
    · simp [ofSubscription, h.findValidator, hr]
  | some record =>
    obtain ⟨hrun, heffects⟩ := ofSubscription_of_record interval height h hr
    have hc : c = ((survey sub.operator (max (height - interval) 1) height w.chain).1.toOption,
        (survey sub.operator (max (height - interval) 1) height w.chain).2) := by
      simp only [c, consult, hr]
    refine ⟨heffects, ?_⟩
    rw [hrun, hc]
    cases (survey sub.operator (max (height - interval) 1) height w.chain).1 with
    | ok a => exact .inl ⟨_, by rw [report?, hr]; rfl, rfl⟩
    | error f => exact .inr ⟨f, by rw [report?, hr]; rfl, rfl⟩

/-- A task sends its report if there is one, and it never waits for ever. -/
theorem send_cases (h : Store.ReadsAs w.store m) (sub : Subscription) :
    let c := consult m interval height sub w.chain
    let es : List (Effect σ) := (sent? m interval height (sub, c.1)).toList
    (send m.blocks height interval sub).effects w = es ∧
      ((send m.blocks height interval sub).runIn w).2 =
        { w with chain := c.2, outbox := w.outbox ++ es.flatMap Effect.deliveries } ∧
      ((send m.blocks height interval sub).runIn w).1 ≠ .error .hung ∧
      succeeded ((send m.blocks height interval sub).runIn w).1 =
        (sent? (σ := σ) m interval height (sub, c.1)).isSome := by
  intro c es
  obtain ⟨heffects, ⟨r, hr, hrun⟩ | ⟨f, hr, hrun⟩⟩ := ofSubscription_cases interval height h sub
  · have hes : sent? (σ := σ) m interval height (sub, c.1) =
        some (.sent sub.subscribers (.report r)) := by
      rw [sent?, hr]
      rfl
    simp [send, heffects, hrun, c, es, hes, Effect.deliveries, succeeded]
  · have hes : sent? (σ := σ) m interval height (sub, c.1) = none := by
      rw [sent?, hr]
      rfl
    simp [send, heffects, hrun, c, es, hes, succeeded]

/-- The tasks send what the chain's answers call for, and nothing else changes. -/
theorem mapM_send_cases (h : Store.ReadsAs w.store m) (order : List Subscription) :
    let asked := consultAll m interval height order w.chain
    let es : List (Effect σ) := asked.1.filterMap (sent? m interval height)
    let tasks : Work κ σ (List (Except Stop Unit)) :=
      order.mapM fun sub => attempt (send m.blocks height interval sub)
    tasks.effects w = es ∧ ∃ outcomes,
      tasks.runIn w = (.ok outcomes,
        { w with chain := asked.2, outbox := w.outbox ++ es.flatMap Effect.deliveries }) ∧
      (∀ o ∈ outcomes, o ≠ .error .hung) ∧ outcomes.countP succeeded = es.length := by
  intro asked es tasks
  induction order generalizing w with
  | nil => exact ⟨rfl, [], by simp [tasks, asked, es, consultAll], nofun, rfl⟩
  | cons sub rest ih =>
    obtain ⟨heffects, hworld, hhung, hsucceeded⟩ := send_cases interval height h sub
    let c := consult m interval height sub w.chain
    let first : List (Effect σ) := (sent? m interval height (sub, c.1)).toList
    let w₁ : World κ σ :=
      { w with chain := c.2, outbox := w.outbox ++ first.flatMap Effect.deliveries }
    obtain ⟨heffects', outcomes, hrun, hhung', hcount⟩ := ih (w := w₁) h
    have hes : es = first ++ (consultAll m interval height rest c.2).1.filterMap
        (sent? m interval height) := by
      simp only [es, asked, consultAll, List.filterMap_cons, first, c]
      cases sent? (σ := σ) m interval height _ <;> rfl
    have hfirst : (attempt (send m.blocks height interval sub)).runIn w =
        (.ok ((send m.blocks height interval sub).runIn w).1, w₁) := by
      rw [runIn_attempt, hworld]
    refine ⟨?_, ((send m.blocks height interval sub).runIn w).1 :: outcomes, ?_, ?_, ?_⟩
    · simp only [tasks, List.mapM_cons, effects_bind, effects_attempt, heffects, hfirst, hrun,
        heffects', effects_pure, hes, first, c, List.append_nil, w₁]
    · simp only [tasks, List.mapM_cons, runIn_bind, hfirst, hrun, runIn_pure, hes,
        List.flatMap_append]
      simp [w₁, asked, consultAll, c]
    · exact List.forall_mem_cons.mpr ⟨hhung, hhung'⟩
    · rw [List.countP_cons, hcount, hsucceeded, hes, List.length_append, Nat.add_comm]
      simp only [first, c]
      cases sent? (σ := σ) m interval height _ <;> rfl

/-- A pass in any order ends with the number of reports that it sent. -/
theorem sendAll_cases (h : Store.ReadsAs w.store m) (order : List Subscription) :
    let asked := consultAll m interval height order w.chain
    let es : List (Effect σ) := asked.1.filterMap (sent? m interval height)
    (sendAll m.blocks interval height order : Work κ σ Nat).effects w = es ∧
      (sendAll m.blocks interval height order).runIn w = (.ok es.length,
        { w with chain := asked.2, outbox := w.outbox ++ es.flatMap Effect.deliveries }) := by
  intro asked es
  obtain ⟨heffects, outcomes, hrun, hhung, hcount⟩ := mapM_send_cases interval height h order
  have hnone : ∀ o ∈ outcomes, (o matches .error .hung) = false := by
    intro o ho
    rcases o with (_ | _) | _
    · rfl
    · exact absurd rfl (hhung _ ho)
    · rfl
  constructor
  · simp [sendAll, hrun, heffects, es, asked]
  · simpa [sendAll, hrun, hcount, es, asked] using hnone

theorem pass_cases (h : Store.ReadsAs w.store m) :
    (pass interval height : Work κ σ Nat).runIn w =
        (sendAll m.blocks interval height m.followed).runIn w ∧
      (pass interval height : Work κ σ Nat).effects w =
        (sendAll m.blocks interval height m.followed).effects w := by
  rw [pass_eq]
  simp [h.allSubscriptions, h.blocks, Memory.followed]

end Tasks

/-! ## Texts -/

/-- The line about a value that was `before` and is `after`. -/
def changed (label unit : String) (before after : Float) : String :=
  let first := Decimal.fixed .negative 2 before
  let last := Decimal.fixed .negative 2 after
  let change := Decimal.fixed .always 2 (after - before)
  s!"{label}: {first}{unit} → {last}{unit} ({change})"

/-- The lines of a report on the heights from `start` to `height`. -/
def summary (sub : Subscription) (record : ValidatorRecord) (blocks : List BlockRecord)
    (start height : Nat) (a : Answers) : List String :=
  let uptime := Decimal.fixed .negative 2 sub.tracking.history.uptime
  let proposed := proposedBy blocks record.consensus
  let share := Decimal.fixed .negative 2 (proposalShare blocks record.consensus)
  [s!"📊 Report for {record.displayName} ({sub.operator}), blocks {start}..{height}",
    changed "Commission rate" "%" (a.before.commission.rate * 100.0)
      (a.after.commission.rate * 100.0),
    changed "Max commission rate" "%" (a.before.commission.maxRate * 100.0)
      (a.after.commission.maxRate * 100.0),
    changed "Voting power" "%" (a.poolBefore.votingPower a.before.tokens)
      (a.poolAfter.votingPower a.after.tokens),
    changed "Total tokens" "" (Float.ofNat a.before.tokens / 1000000.0)
      (Float.ofNat a.after.tokens / 1000000.0),
    s!"Uptime: {uptime}%",
    s!"Proposed blocks: {proposed} of {blocks.length} ({share}%)"]

theorem line_eq (d : Delta) (label unit : String) :
    d.line label unit = changed label unit d.before d.after ++ "\n" := by
  have hend : ")\n" = ")" ++ "\n" := rfl
  simp only [Delta.line, Delta.change, changed, hend, toString, String.append_assoc]

/-- The text of a report is made of these lines. -/
theorem render_build (sub : Subscription) (record : ValidatorRecord) (blocks : List BlockRecord)
    (height interval : Nat) (a : Answers) :
    (build sub record blocks height interval a.before a.after a.poolBefore a.poolAfter).render =
      "\n".intercalate (summary sub record blocks (max (height - interval) 1) height a) := by
  have hend : "%\n" = "%" ++ "\n" := rfl
  unfold render summary
  simp only [line_eq, String.intercalate_cons_cons, String.intercalate_singleton, hend, toString,
    String.append_assoc, build, startHeight, tokenScale]

/-! ## Reports on one validator -/

end Report

/-- The report on an operator that is sent, and to whom. -/
def Effect.report? {σ : Type} (operator : String) : Effect σ → Option (List String × Report)
  | .sent targets (.report r) => if r.operator = operator then some (targets, r) else none
  | _ => none

/-- What is delivered by a report on an operator. -/
def Effect.deliveriesOn {σ : Type} (operator : String) (e : Effect σ) : List Delivery :=
  if (e.report? operator).isSome then e.deliveries else []

/-- Of each report on an operator its text is delivered. -/
theorem flatMap_deliveriesOn {σ : Type} (operator : String) (es : List (Effect σ)) :
    es.flatMap (Effect.deliveriesOn operator) =
      (es.filterMap (Effect.report? operator)).flatMap fun p => p.1.map (⟨·, p.2.render⟩) := by
  induction es with
  | nil => rfl
  | cons e es ih =>
    rw [List.flatMap_cons, ih]
    cases h : e.report? operator with
    | none => simp [Effect.deliveriesOn, h]
    | some p =>
      obtain ⟨targets, r, rfl, rfl⟩ : ∃ targets r, e = .sent targets (.report r) ∧
          p = (targets, r) := by
        cases e with
        | stored s => cases h
        | sent targets m =>
          cases m with
          | report r =>
            rw [Effect.report?, ite_eq_iff] at h
            obtain ⟨-, h⟩ | ⟨-, h⟩ := h <;> cases h
            exact ⟨targets, r, rfl, rfl⟩
          | _ => cases h
      simp [Effect.deliveriesOn, h, Effect.deliveries, Message.text]

namespace Report

section One

variable {κ σ : Type} [Chain κ] {m : Memory} (interval height : Nat) {operator : String}
  {order : List Subscription} {c : κ}

theorem fst_consultAll (m : Memory) (order : List Subscription) (c : κ) :
    (consultAll m interval height order c).1.map (·.1) = order := by
  induction order generalizing c with
  | nil => rfl
  | cons sub rest ih => exact congrArg (sub :: ·) (ih _)

variable {interval height} in
theorem operator_of_report? {sub : Subscription} {answers : Option Answers} {r : Report}
    (h : report? m interval height sub answers = some r) : r.operator = sub.operator := by
  obtain ⟨record, -, h⟩ := Option.bind_eq_some_iff.mp h
  obtain ⟨a, -, rfl⟩ := Option.map_eq_some_iff.mp h
  rfl

/-- What is sent for a subscription is a report on its operator. -/
theorem report?_of_sent? (p : Subscription × Option Answers) :
    (sent? (σ := σ) m interval height p).bind (Effect.report? operator) =
      if p.1.operator = operator then
        (report? m interval height p.1 p.2).map (p.1.subscribers, ·)
      else none := by
  rw [sent?]
  cases hr : report? m interval height p.1 p.2 with
  | none => simp
  | some r => simp [Effect.report?, operator_of_report? hr]

/-- If each key comes once, only its item counts. -/
theorem filterMap_eq_find? {α β : Type} {key : α → String} {k : String} {l : List α}
    {f : α → Option β} (hn : (l.map key).Nodup) (hf : ∀ a, key a ≠ k → f a = none) :
    l.filterMap f = ((l.find? (key · == k)).bind f).toList := by
  induction l with
  | nil => rfl
  | cons a rest ih =>
    obtain ⟨ha, hrest⟩ := List.nodup_cons.mp hn
    by_cases hk : key a = k
    · have hnone : ∀ b ∈ rest, f b = none := fun b hb =>
        hf b fun hkb => ha (List.mem_map.mpr ⟨b, hb, hkb.trans hk.symm⟩)
      rw [List.find?_cons_of_pos (by simpa using hk), List.filterMap_cons,
        List.filterMap_eq_nil_iff.mpr hnone, Option.bind_some]
      cases f a <;> rfl
    · rw [List.find?_cons_of_neg (by simpa using hk), List.filterMap_cons, hf a hk]
      exact ih hrest

/-- In any order of those that are followed, an operator finds its own subscription. -/
theorem find?_order (hm : m.Sorted) (hp : order.Perm m.followed) (operator : String) :
    order.find? (·.operator == operator) =
      (m.subscription? operator).filter (·.hasSubscribers) := by
  have hfind : order.find? (·.operator == operator) =
      Rows.find? Subscription.operator m.followed operator :=
    Rows.find?_eq_of_perm hp (Rows.length_filter_key_le_one hm.followed)
  ext sub
  rw [hfind, Rows.find?_eq_some_iff hm.followed, Option.filter_eq_some_iff,
    hm.subscription?_eq_some_iff, Memory.followed, List.mem_filter]
  exact and_right_comm

/-- The report on an operator that is sent, and to whom, if the chain gave these answers for it. -/
def dispatch? (m : Memory) (interval height : Nat) (operator : String)
    (answers : Option Answers) : Option (List String × Report) :=
  ((m.subscription? operator).filter (·.hasSubscribers)).bind fun sub =>
    (report? m interval height sub answers).map (sub.subscribers, ·)

theorem nodup_consultAll (hm : m.Sorted) (hp : order.Perm m.followed) :
    ((consultAll m interval height order c).1.map (·.1.operator)).Nodup := by
  have hmap : (consultAll m interval height order c).1.map (·.1.operator) =
      order.map (·.operator) := by
    have h := congrArg (List.map Subscription.operator)
      (fst_consultAll interval height m order c)
    rw [List.map_map] at h
    exact h
  rw [hmap]
  exact (hp.map Subscription.operator).nodup_iff.mpr (Rows.nodup_keys hm.followed)

/-- Whatever the order and the other subscriptions are, what is sent about an operator follows from
its own subscription and record, from the answers about it, and from the blocks. -/
theorem filterMap_sent? (hm : m.Sorted) (hp : order.Perm m.followed) (operator : String) :
    ((consultAll m interval height order c).1.filterMap
        (sent? (σ := σ) m interval height)).filterMap (Effect.report? operator) =
      (dispatch? m interval height operator
        (answersTo m interval height order c operator)).toList := by
  have hothers : ∀ p : Subscription × Option Answers, p.1.operator ≠ operator →
      (sent? (σ := σ) m interval height p).bind (Effect.report? operator) = none := by
    intro p hne
    rw [report?_of_sent? interval height, if_neg hne]
  have hfirst : ((consultAll m interval height order c).1.find?
      (·.1.operator == operator)).map (·.1) = order.find? (·.operator == operator) := by
    conv_rhs => rw [← fst_consultAll interval height m order c, List.find?_map]
    rfl
  have hnodup := nodup_consultAll interval height (c := c) hm hp
  rw [List.filterMap_filterMap, filterMap_eq_find? hnodup hothers, dispatch?, ← find?_order hm hp,
    ← hfirst, answersTo]
  cases hfound : (consultAll m interval height order c).1.find? (·.1.operator == operator) with
  | none => rfl
  | some p =>
    have hop : p.1.operator = operator := by simpa using List.find?_some hfound
    rw [Option.bind_some, report?_of_sent? interval height, if_pos hop]
    rfl

/-- A report on an operator is due: it is followed and has a record, and the chain gave all answers
for it. -/
structure Due (m : Memory) (operator : String) (answers : Option Answers) (sub : Subscription)
    (record : ValidatorRecord) (a : Answers) : Prop where
  subscription : m.subscription? operator = some sub
  followed : sub.hasSubscribers = true
  record : m.validator? operator = some record
  answers : answers = some a

theorem Due.dispatch?_eq {answers : Option Answers} {sub : Subscription}
    {record : ValidatorRecord} {a : Answers} (h : Due m operator answers sub record a) :
    dispatch? m interval height operator answers = some (sub.subscribers,
      build sub record m.blocks height interval a.before a.after a.poolBefore a.poolAfter) := by
  have hop : sub.operator = operator := Memory.operator_of_subscription? h.subscription
  simp [dispatch?, report?, h.subscription, Option.filter_some, h.followed, hop, h.record,
    h.answers]

theorem isSome_dispatch?_iff {answers : Option Answers} :
    (dispatch? m interval height operator answers).isSome = true ↔
      ∃ sub record a, Due m operator answers sub record a := by
  constructor
  · intro hsome
    obtain ⟨p, hp⟩ := Option.isSome_iff_exists.mp hsome
    obtain ⟨sub, hsub, hp⟩ := Option.bind_eq_some_iff.mp hp
    obtain ⟨hsub, hfollowed⟩ := Option.filter_eq_some_iff.mp hsub
    obtain ⟨r, hr, -⟩ := Option.map_eq_some_iff.mp hp
    obtain ⟨record, hrecord, hr⟩ := Option.bind_eq_some_iff.mp hr
    obtain ⟨a, ha, -⟩ := Option.map_eq_some_iff.mp hr
    rw [Memory.operator_of_subscription? hsub] at hrecord
    exact ⟨sub, record, a, hsub, hfollowed, hrecord, ha⟩
  · rintro ⟨sub, record, a, h⟩
    rw [h.dispatch?_eq]
    rfl

/-- The report on an operator depends on what is known of it, and on the blocks. -/
theorem dispatch?_congr {n : Memory} (hsub : n.subscription? operator = m.subscription? operator)
    (hval : n.validator? operator = m.validator? operator) (hblocks : n.blocks = m.blocks)
    (answers : Option Answers) :
    dispatch? n interval height operator answers =
      dispatch? m interval height operator answers := by
  rw [dispatch?, dispatch?, hsub]
  cases hs : (m.subscription? operator).filter (·.hasSubscribers) with
  | none => rfl
  | some sub =>
    have hop : sub.operator = operator :=
      Memory.operator_of_subscription? (Option.filter_eq_some_iff.mp hs).1
    simp only [Option.bind_some, report?, hop, hval, hblocks]

/-- There are as many reports as operators for which one is due. -/
theorem exists_operators (hm : m.Sorted) (hp : order.Perm m.followed) :
    ∃ operators : List String, operators.Nodup ∧
      operators.length = ((consultAll m interval height order c).1.filterMap
        (sent? (σ := σ) m interval height)).length ∧
      ∀ operator, operator ∈ operators ↔ ∃ sub record a,
        Due m operator (answersTo m interval height order c operator) sub record a := by
  let asked := (consultAll m interval height order c).1
  refine ⟨(asked.filter fun p => (sent? (σ := σ) m interval height p).isSome).map (·.1.operator),
    ?_, ?_, fun operator => ?_⟩
  · exact (nodup_consultAll interval height hm hp).sublist (List.filter_sublist.map _)
  · rw [List.length_map, ← List.countP_eq_length_filter, List.length_filterMap_eq_countP]
  · have hsent : ∀ p, (sent? (σ := σ) m interval height p).isSome = true ∧
        p.1.operator = operator ↔
          ((sent? (σ := σ) m interval height p).bind (Effect.report? operator)).isSome = true := by
      intro p
      rw [report?_of_sent? interval height, sent?]
      by_cases hop : p.1.operator = operator <;> simp [hop]
    have hone : asked.filterMap (fun p =>
        (sent? (σ := σ) m interval height p).bind (Effect.report? operator)) =
        (dispatch? m interval height operator
          (answersTo m interval height order c operator)).toList := by
      rw [← filterMap_sent? (σ := σ) interval height hm hp operator, List.filterMap_filterMap]
    have hsome : (dispatch? m interval height operator
        (answersTo m interval height order c operator)).isSome = true ↔
        ∃ x, x ∈ asked.filterMap fun p =>
          (sent? (σ := σ) m interval height p).bind (Effect.report? operator) := by
      rw [hone]
      simp [Option.isSome_iff_exists]
    rw [← isSome_dispatch?_iff interval height, hsome]
    simp only [List.mem_map, List.mem_filter, and_assoc, hsent]
    simp only [Option.isSome_iff_exists, List.mem_filterMap]
    exact ⟨fun ⟨p, hp, x, hx⟩ => ⟨x, p, hp, hx⟩, fun ⟨x, p, hp, hx⟩ => ⟨p, hp, x, hx⟩⟩

/-- If asking leaves the chain as it is, the answers for an operator are those to its own queries,
whatever the order is. -/
theorem Unmoved.answersTo_eq (hc : Unmoved c) (hm : m.Sorted) (hp : order.Perm m.followed)
    {sub : Subscription} (hsub : m.subscription? operator = some sub)
    (hfollowed : sub.hasSubscribers = true) :
    answersTo m interval height order c operator = (consult m interval height sub c).1 := by
  have hall : ∀ order : List Subscription, (consultAll m interval height order c).1 =
      order.map fun sub => (sub, (consult m interval height sub c).1) := by
    intro order
    induction order with
    | nil => rfl
    | cons first rest ih => simp only [consultAll, hc.snd_consult, ih, List.map_cons]
  have hfind : order.find? (·.operator == operator) = some sub := by
    rw [find?_order hm hp, hsub, Option.filter_some, if_pos hfollowed]
  rw [answersTo, hall, List.find?_map]
  show ((order.find? (·.operator == operator)).map _).bind _ = _
  rw [hfind]
  rfl

/-- So it is in a pass in any order of its tasks. -/
theorem filterMap_sendAll [Store σ] {w : World κ σ} (h : Store.ReadsAs w.store m) (hm : m.Sorted)
    (hp : order.Perm m.followed) (operator : String) :
    ((sendAll m.blocks interval height order : Work κ σ Nat).effects w).filterMap
        (Effect.report? operator) =
      (dispatch? m interval height operator
        (answersTo m interval height order w.chain operator)).toList := by
  rw [(sendAll_cases interval height h order).1]
  exact filterMap_sent? interval height hm hp operator

end One

/-! ## The whole pass -/

/-- A pass does what its tasks do in the order of the subscriptions. In any order of the tasks, let
a report on an operator be due if it is followed and has a record, and the chain gives all four
answers for it. Then the pass ends with the number of operators for which a report is due; it sends
nothing but these reports, each of them once and its text to each of those who follow once, and
changes nothing else. What is sent about an operator is the same in any other pass, on another chain
and another store and in another order of its tasks, in which its subscription, its record, the
answers for it and the blocks are the same. -/
theorem pass_isolated {κ κ' σ σ' : Type} [Chain κ] [Chain κ'] [Store σ] [Store σ']
    (config config' : TrackerConfig) (chain : κ) (chain' : κ') (os : List (Operation κ))
    (os' : List (Operation κ')) (interval height : Nat) (w : World κ σ) (v : World κ' σ') :
    let m := (Engine.reachedBy config chain os).store
    let n := (Engine.reachedBy config' chain' os').store
    Store.ReadsAs w.store m → Store.ReadsAs v.store n →
    ((pass interval height : Work κ σ Nat).runIn w =
        (sendAll m.blocks interval height m.followed).runIn w ∧
      (pass interval height : Work κ σ Nat).effects w =
        (sendAll m.blocks interval height m.followed).effects w) ∧
    ∀ order order' : List Subscription, order.Perm m.followed → order'.Perm n.followed →
      let tasks : Work κ σ Nat := sendAll m.blocks interval height order
      let tasks' : Work κ' σ' Nat := sendAll n.blocks interval height order'
      let answers := answersTo m interval height order w.chain
      let answers' := answersTo n interval height order' v.chain
      (∃ operators : List String, operators.Nodup ∧
        (∀ operator, operator ∈ operators ↔
          ∃ sub record a, Due m operator (answers operator) sub record a) ∧
        (tasks.runIn w).1 = .ok operators.length) ∧
      (∃ next, (tasks.runIn w).2 = { w with
        chain := next
        outbox := w.outbox ++ (tasks.effects w).flatMap Effect.deliveries }) ∧
      (∀ e ∈ tasks.effects w, ∃ operator, (Effect.report? operator e).isSome = true) ∧
      (∀ operator sub record a, Due m operator (answers operator) sub record a →
        sub.subscribers.Nodup ∧
        (tasks.effects w).filterMap (Effect.report? operator) =
          [(sub.subscribers, build sub record m.blocks height interval a.before a.after
            a.poolBefore a.poolAfter)] ∧
        (tasks.effects w).flatMap (Effect.deliveriesOn operator) =
          sub.subscribers.map (⟨·, "\n".intercalate
            (summary sub record m.blocks (max (height - interval) 1) height a)⟩)) ∧
      (∀ operator, (¬ ∃ sub record a, Due m operator (answers operator) sub record a) →
        (tasks.effects w).filterMap (Effect.report? operator) = []) ∧
      ∀ operator, n.subscription? operator = m.subscription? operator →
        n.validator? operator = m.validator? operator → n.blocks = m.blocks →
        answers' operator = answers operator →
        (tasks'.effects v).filterMap (Effect.report? operator) =
            (tasks.effects w).filterMap (Effect.report? operator) ∧
          (tasks'.effects v).flatMap (Effect.deliveriesOn operator) =
            (tasks.effects w).flatMap (Effect.deliveriesOn operator) := by
  intro m n hw hv
  have hm : m.Tidy := (Engine.tidy_reachedBy config chain os).2
  have hn : n.Tidy := (Engine.tidy_reachedBy config' chain' os').2
  refine ⟨pass_cases interval height hw, ?_⟩
  intro order order' hp hp' tasks tasks' answers answers'
  obtain ⟨heffects, hrun⟩ := sendAll_cases interval height hw order
  have hreports := filterMap_sendAll interval height hw hm.sorted hp
  have hreports' := filterMap_sendAll interval height hv hn.sorted hp'
  obtain ⟨operators, hnodup, hlength, hmem⟩ := exists_operators (σ := σ) (c := w.chain)
    interval height hm.sorted hp
  let next := (consultAll m interval height order w.chain).2
  refine ⟨⟨operators, hnodup, hmem, ?_⟩, ⟨next, ?_⟩, fun e he => ?_,
    fun operator sub record a h => ?_, fun operator hnot => ?_,
    fun operator hsub hval hblocks hanswers => ?_⟩
  · rw [hrun, hlength]
  · rw [hrun, heffects]
  · rw [heffects] at he
    obtain ⟨p, -, hp⟩ := List.mem_filterMap.mp he
    obtain ⟨r, -, rfl⟩ := Option.map_eq_some_iff.mp hp
    exact ⟨r.operator, by simp [Effect.report?]⟩
  · have hone : (tasks.effects w).filterMap (Effect.report? operator) =
        [(sub.subscribers, build sub record m.blocks height interval a.before a.after
          a.poolBefore a.poolAfter)] := by
      rw [hreports, h.dispatch?_eq]
      rfl
    -- what arrives is read off this one report, whose text is known line by line
    refine ⟨hm.nodup_of_subscription? h.subscription, hone, ?_⟩
    rw [flatMap_deliveriesOn, hone, List.flatMap_singleton, render_build]
  · rw [hreports, Option.toList_eq_nil_iff, ← Option.not_isSome_iff_eq_none,
      isSome_dispatch?_iff]
    exact hnot
  · have hdispatch : dispatch? n interval height operator (answers' operator) =
        dispatch? m interval height operator (answers operator) := by
      rw [hanswers, dispatch?_congr interval height hsub hval hblocks]
    have hsame : (tasks'.effects v).filterMap (Effect.report? operator) =
        (tasks.effects w).filterMap (Effect.report? operator) := by
      rw [hreports, hreports']
      exact congrArg Option.toList hdispatch
    exact ⟨hsame, by rw [flatMap_deliveriesOn, flatMap_deliveriesOn, hsame]⟩

/-! ## Two validators -/

theorem unmoved_scripted (c : Scripted) : Unmoved c := ⟨fun _ _ => rfl, fun _ => rfl⟩

/-- The chain with two validators, of which the first one had more tokens and took a commission at
height 3. -/
def shrinking (fails : Bool) : Scripted :=
  { Beta.chain fails with
    snapshotsAt := (Alpha.chain false).snapshots.map fun s =>
      ((s.operator, 3), { s with tokens := 3000000, commission := ⟨0.05, 0.2, 0.01⟩ })
    pool := ⟨4000000, 0⟩ }

/-- Whether the second validator can be asked for does not matter for the answers about the
first. -/
theorem answersTo_alpha {m : Memory} (hm : m.Sorted)
    (hsub : m.subscription? Alpha.operator = some ⟨Alpha.operator, .fresh, ["chat-1"]⟩)
    (hrecord : m.validator? Alpha.operator = some Alpha.record) (fails : Bool) :
    answersTo m 5 8 m.followed (shrinking fails) Alpha.operator =
      (survey Alpha.operator 3 8 (shrinking false)).1.toOption := by
  rw [(unmoved_scripted _).answersTo_eq 5 8 hm (.refl _) hsub rfl]
  simp only [consult, hrecord]
  cases fails <;> rfl

/-- A report on a validator is sent although a second one, whose task comes first, cannot be asked
for; it compares heights 3 and 8, and it is the report that is sent when nobody follows the second
one. -/
theorem pass_isolated_of_second :
    let before : List (Operation Scripted) :=
      [.act (.turn (shrinking false)), .act (.subscribe Alpha.operator "chat-1")]
    let joined := before ++ [.act (.subscribe Beta.operator "chat-2")]
    let w := Engine.reachedBy .standard Scripted.empty (joined ++ [.act (.turn (shrinking true))])
    let v := Engine.reachedBy .standard Scripted.empty (before ++ [.act (.turn (shrinking false))])
    let tasks : Work Scripted Memory Nat := sendAll w.store.blocks 5 8 w.store.followed
    let tasks' : Work Scripted Memory Nat := sendAll v.store.blocks 5 8 v.store.followed
    let text :=
      "📊 Report for Alpha (cosmosvaloper1qyqszqgpqyqszqgpqyqszqgpqyqszqgph84tp0), blocks 3..8\n" ++
      "Commission rate: 5.00% → 0.00% (-5.00)\n" ++
      "Max commission rate: 20.00% → 0.00% (-20.00)\n" ++
      "Voting power: 75.00% → 0.03% (-74.97)\n" ++
      "Total tokens: 3.00 → 0.00 (-3.00)\n" ++
      "Uptime: 0.00%\n" ++
      "Proposed blocks: 0 of 0 (0.00%)"
    w.store.followed.map (·.operator) = [Beta.operator, Alpha.operator] ∧
      (tasks.effects w).filterMap (Effect.report? Beta.operator) = [] ∧
      (tasks.effects w).flatMap (Effect.deliveriesOn Alpha.operator) =
        [⟨"chat-1", text⟩] ∧
      (tasks'.effects v).flatMap (Effect.deliveriesOn Alpha.operator) =
        (tasks.effects w).flatMap (Effect.deliveriesOn Alpha.operator) := by
  intro before joined w v tasks tasks' text
  let sub : Subscription := ⟨Alpha.operator, .fresh, ["chat-1"]⟩
  obtain ⟨hfollowed, hsub, hbeta, hrecord, hempty, hsub', hval, hblocks⟩ :
      w.store.followed.map (·.operator) = [Beta.operator, Alpha.operator] ∧
      w.store.subscription? Alpha.operator = some sub ∧
      w.store.subscription? Beta.operator = some ⟨Beta.operator, .fresh, ["chat-2"]⟩ ∧
      w.store.validator? Alpha.operator = some Alpha.record ∧
      w.store.blocks = [] ∧
      v.store.subscription? Alpha.operator = w.store.subscription? Alpha.operator ∧
      v.store.validator? Alpha.operator = w.store.validator? Alpha.operator ∧
      v.store.blocks = w.store.blocks := by
    decide +kernel
  have hw : w.chain = shrinking true :=
    congrArg World.chain (Engine.reachedBy_turn .standard Scripted.empty joined (shrinking true))
  have hv : v.chain = shrinking false :=
    congrArg World.chain (Engine.reachedBy_turn .standard Scripted.empty before (shrinking false))
  have hm : w.store.Sorted := (Engine.tidy_reachedBy .standard Scripted.empty _).2.sorted
  have hn : v.store.Sorted := (Engine.tidy_reachedBy .standard Scripted.empty _).2.sorted
  obtain ⟨a, ha⟩ : ∃ a, (survey Alpha.operator 3 8 (shrinking false)).1 = .ok a := ⟨_, rfl⟩
  obtain ⟨f, hf⟩ : ∃ f, (survey Beta.operator 3 8 (shrinking true)).1 = .error f := ⟨_, rfl⟩
  have htext : (survey Alpha.operator 3 8 (shrinking false)).1.toOption.map (fun a =>
      "\n".intercalate (summary sub Alpha.record [] 3 8 a)) = some text := by
    decide +kernel
  have hanswers : answersTo w.store 5 8 w.store.followed w.chain Alpha.operator = some a := by
    rw [hw, answersTo_alpha hm hsub hrecord, ha]
    rfl
  have hanswers' : answersTo v.store 5 8 v.store.followed v.chain Alpha.operator = some a := by
    rw [hv, answersTo_alpha hn (hsub'.trans hsub) (hval.trans hrecord), ha]
    rfl
  have hnone : answersTo w.store 5 8 w.store.followed w.chain Beta.operator = none := by
    rw [(unmoved_scripted _).answersTo_eq 5 8 hm (.refl _) hbeta rfl, hw, consult]
    cases w.store.validator? Beta.operator with
    | none => rfl
    | some record =>
      show (survey Beta.operator 3 8 (shrinking true)).1.toOption = _
      rw [hf]
      rfl
  have h := pass_isolated .standard .standard Scripted.empty Scripted.empty
    (joined ++ [.act (.turn (shrinking true))]) (before ++ [.act (.turn (shrinking false))]) 5 8
    w v
  dsimp only at h
  rw [show Engine.reachedBy .standard Scripted.empty (joined ++ [.act (.turn (shrinking true))]) =
    w from rfl] at h
  rw [show Engine.reachedBy .standard Scripted.empty (before ++ [.act (.turn (shrinking false))]) =
    v from rfl] at h
  clear_value w v
  obtain ⟨-, -, -, hdue, hnot, hsame⟩ := (h w.store.readsAs v.store.readsAs).2
    w.store.followed v.store.followed (.refl _) (.refl _)
  obtain ⟨-, -, hreport⟩ := hdue Alpha.operator _ _ a ⟨hsub, rfl, hrecord, hanswers⟩
  refine ⟨hfollowed, hnot Beta.operator ?_, ?_, ?_⟩
  · rintro ⟨_, _, a', h⟩
    exact absurd (hnone.symm.trans h.answers) (by simp)
  · rw [ha] at htext
    rw [hreport, hempty]
    exact congrArg (fun text => [(⟨"chat-1", text⟩ : Delivery)]) (Option.some.inj htext)
  · exact (hsame Alpha.operator hsub' hval hblocks (hanswers'.trans hanswers.symm)).2

end Report

end Liveness
