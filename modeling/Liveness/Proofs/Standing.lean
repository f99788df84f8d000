import Liveness.Proofs.Jobs
import Liveness.Proofs.Update

/-!
# Where a validator stands

A store holds a subscription and a record of a validator. What a block without transactions makes of
the two is decided by them, the slashing window and what the chain answers about the validator. Work
that is about others passes it by.
-/

namespace Liveness

open Work

/-! ## Warnings -/

/-- The message tells that the operator misses blocks or is in jail. -/
def Message.warnsOf (operator : String) : Message → Bool
  | .missed r _ _ _ => r.operator == operator
  | .jailed r _ => r.operator == operator
  | _ => false

/-- The warning about an operator that is sent, with those it is sent to. -/
def Effect.warning? {σ : Type} (operator : String) : Effect σ → Option (List String × Message)
  | .sent targets message => if message.warnsOf operator then some (targets, message) else none
  | .stored _ => none

/-! ## Standings -/

/-- What a store holds about a validator. -/
structure Standing where
  /-- The subscription, if there is one. -/
  subscription? : Option Subscription
  /-- The record, if there is one. -/
  record? : Option ValidatorRecord

/-- Where a validator stands. -/
def Memory.standing (s : Memory) (operator : String) : Standing :=
  ⟨s.subscription? operator, s.validator? operator⟩

namespace Standing

/-- The targets that follow the validator. -/
def followers (st : Standing) : List String := (st.subscription?.map (·.subscribers)).getD []

section Votes

variable (config : TrackerConfig) (b : Block) (window : Float)

/-- The standing after the vote was counted. -/
def seen (st : Standing) : Standing :=
  { st with subscription? := st.subscription?.map (·.seen config b window st.record?) }

/-- The alert that the vote calls for. -/
def alert? (st : Standing) : Option (List String × Message) :=
  st.subscription?.bind (·.alert? config b window st.record?)

/-- The work that the vote puts off: to ask again whether the validator is jailed, or to ask for its
record. -/
def late? (operator : String) (st : Standing) : Option Job :=
  match st.subscription?, st.record? with
  | none, _ => none
  | some _, none => some (.refetch operator)
  | some _, some _ => (st.alert? config b window).map fun _ => .recheck operator b.height

end Votes

section Work

variable (config : TrackerConfig) (answer : Except Failure Snapshot)

/-- The standing after work about the validator was done, and the warnings that it sent, if this is
what the chain answers. -/
def worked : Option Job → Standing → Standing × List (List String × Message)
  | some (.recheck _ height), st =>
    match Registry.marked? answer st.record? with
    | none => (st, [])
    | some r => ({ st with record? := some r }, [(st.followers, .jailed r height)])
  | some (.refetch _), st =>
    match Registry.fetched config.accountPrefix answer with
    | .error _ => (st, [])
    | .ok r => ({ st with record? := some r }, [])
  | _, st => (st, [])

/-- The standing after the vote was counted and what it put off was done, and the warnings. -/
def voted (b : Block) (window : Float) (operator : String) (st : Standing) :
    Standing × List (List String × Message) :=
  let late := (st.seen config b window).worked config answer (st.late? config b window operator)
  (late.1, (st.alert? config b window).toList ++ late.2)

/-- The standing after a block without transactions, and the warnings. -/
def afterBlock (b : Block) (window : Float) (operator : String) (st : Standing) :
    Standing × List (List String × Message) :=
  if st.subscription?.any (Engine.isTracked config) then st.voted config answer b window operator
  else (st, [])

end Work

variable {config : TrackerConfig} {answer : Except Failure Snapshot} {b : Block} {window : Float}
  {operator : String} {st : Standing}

/-- Work about a validator leaves its subscription alone. -/
theorem subscription?_worked (job? : Option Job) :
    (st.worked config answer job?).1.subscription? = st.subscription? := by
  unfold worked
  split
  · split <;> rfl
  · split <;> rfl
  · rfl

/-- A block shows itself to the subscription if the validator is tracked. -/
theorem subscription?_afterBlock :
    (st.afterBlock config answer b window operator).1.subscription? =
      if st.subscription?.any (Engine.isTracked config) then
        st.subscription?.map (·.seen config b window st.record?)
      else st.subscription? := by
  rw [afterBlock]
  split
  · exact subscription?_worked _
  · rfl

/-- Without a record the subscription stays as it is. -/
theorem subscription?_afterBlock_of_no_record (hr : st.record? = none) :
    (st.afterBlock config answer b window operator).1.subscription? = st.subscription? := by
  have hseen : (·.seen config b window none) = (id : Subscription → Subscription) := rfl
  rw [subscription?_afterBlock, hr, hseen, Option.map_id, id, ite_self]

/-- Otherwise its tracking is that of the observation, if the validator is tracked. -/
theorem subscription?_afterBlock_of_tracked {sub : Subscription} {r : ValidatorRecord}
    (hs : st.subscription? = some sub) (hr : st.record? = some r)
    (ht : Engine.isTracked config sub = true) :
    (st.afterBlock config answer b window operator).1.subscription? = some { sub with
      tracking := (sub.tracking.observe b.height (b.signedBy r.consensus) r.jailed window
        config.historyWindow).1 } := by
  rw [subscription?_afterBlock, hs, hr, Option.any_some, if_pos ht]
  rfl

theorem afterBlock_of_untracked
    (h : ∀ sub ∈ st.subscription?, Engine.isTracked config sub = false) :
    st.afterBlock config answer b window operator = (st, []) := by
  have hany : st.subscription?.any (Engine.isTracked config) = false := by
    cases hs : st.subscription? with
    | none => rfl
    | some sub => exact h sub hs
  rw [afterBlock, hany]
  rfl

@[simp] theorem followers_seen : (st.seen config b window).followers = st.followers := by
  cases h : st.subscription? <;> simp [followers, seen, h]

/-- All warnings of a block go to those who follow the validator. -/
theorem targets_of_mem_afterBlock {p : List String × Message}
    (h : p ∈ (st.afterBlock config answer b window operator).2) : p.1 = st.followers := by
  rw [afterBlock] at h
  split at h
  swap
  · cases h
  rcases List.mem_append.mp h with h | h
  · rw [Option.mem_toList] at h
    obtain ⟨sub, hsub, ha⟩ := Option.bind_eq_some_iff.mp h
    obtain ⟨targets, message⟩ := p
    obtain ⟨_, _, _, -, rfl, -⟩ := Subscription.exists_of_alert? ha
    simp [followers, hsub]
  · unfold worked at h
    split at h
    · split at h
      · cases h
      · obtain rfl := List.mem_singleton.mp h
        exact followers_seen
    · split at h <;> cases h
    · cases h

end Standing

/-! ## Chains that are asked about several validators -/

/-- Whatever other validators it is asked about before, this is what the chain answers about the
operator. -/
def Chain.Tells {κ : Type} [Chain κ] (c : κ) (operator : String)
    (answer : Except Failure Snapshot) : Prop :=
  ∀ others : List String, operator ∉ others →
    (Chain.validator (others.foldl (fun c other => (Chain.validator c other none).2) c)
      operator none).1 = answer

namespace Chain.Tells

variable {κ : Type} [Chain κ] {operator other : String} {answer : Except Failure Snapshot}

theorem answer_eq {w : World κ Memory} (h : Tells w.chain operator answer) :
    w.answer operator = answer := h [] (List.not_mem_nil)

theorem asked {c : κ} (h : Tells c operator answer) (hne : other ≠ operator) :
    Tells (Chain.validator c other none).2 operator answer := by
  intro others hothers
  refine h (other :: others) fun hmem => ?_
  rcases List.mem_cons.mp hmem with heq | hmem
  · exact hne heq.symm
  · exact hothers hmem

end Chain.Tells

/-! ## The vote -/

theorem Subscription.warning?_of_alert? {config : TrackerConfig} {b : Block} {window : Float}
    {sub : Subscription} {r : ValidatorRecord} {p : List String × Message}
    (h : sub.alert? config b window (some r) = some p) (operator : String) :
    (Effect.sent p.1 p.2 : Effect Memory).warning? operator =
      if r.operator = operator then some p else none := by
  obtain ⟨targets, message⟩ := p
  obtain ⟨r', counter, level, hr, -, rfl⟩ := Subscription.exists_of_alert? h
  obtain rfl := Option.some.inj hr
  simp [Effect.warning?, Message.warnsOf]

namespace Engine

variable {κ : Type} (config : TrackerConfig) (b : Block) {w : World κ Memory}
  {operator other : String}

theorem standing_update :
    ((update config b operator).runIn w).2.store.standing other =
      if operator = other then (w.store.standing operator).seen config b w.window
      else w.store.standing other := by
  simp only [Memory.standing, subscription?_update, validator?_update]
  split
  · rename_i h
    rw [← h]
    rfl
  · rfl

theorem warnings_update :
    ((update config b operator).effects w).filterMap (Effect.warning? other) =
      if operator = other then ((w.store.standing operator).alert? config b w.window).toList
      else [] := by
  rw [sent_update config b fun _ => rfl]
  show _ = if operator = other then ((w.store.subscription? operator).bind
    (·.alert? config b w.window (w.store.validator? operator))).toList else []
  cases hs : w.store.subscription? operator with
  | none => simp
  | some sub =>
    rw [Option.bind_some]
    cases ha : sub.alert? config b w.window (w.store.validator? operator) with
    | none => simp
    | some p =>
      cases hr : w.store.validator? operator with
      | none =>
        rw [hr] at ha
        cases ha
      | some r =>
        rw [hr] at ha
        rw [Option.bind_some, Subscription.warning?_of_alert? ha,
          Memory.operator_of_validator? hr]
        split <;> rfl

/-- What the vote puts off, if no recheck of the validator is under way. -/
theorem backlog_update (hn : operator ∉ w.rechecking) :
    ((update config b operator).runIn w).2.backlog =
      w.backlog ++ ((w.store.standing operator).late? config b w.window operator).toList := by
  cases hs : w.store.subscription? operator with
  | none =>
    rw [(update_of_no_subscription config b hs).1]
    simp [Memory.standing, Standing.late?, hs]
  | some sub =>
    cases hr : w.store.validator? operator with
    | none =>
      rw [(update_of_no_record config b hs hr).1]
      simp [Memory.standing, Standing.late?, hs, hr]
    | some r =>
      rcases ho : sub.observed config b w.window r with ⟨t, o⟩
      have hlate : (w.store.standing operator).late? config b w.window operator =
          (sub.alert? config b w.window (some r)).map fun _ => .recheck operator b.height := by
        simp [Memory.standing, Standing.late?, Standing.alert?, hs, hr]
      obtain rfl := Memory.operator_of_subscription? hs
      rw [runIn_update config b hs hr ho, hlate]
      rcases o with _ | ⟨counter, level, _ | _⟩ | _ | _ <;>
        simp [Subscription.alert?, ho, World.withAlert, World.withRecheck, hn]

end Engine

/-! ## Work about others -/

/-- The work asks the chain about the operator. -/
def Job.isAbout (operator : String) : Job → Bool
  | .recheck other _ => other == operator
  | .refetch other => other == operator
  | _ => false

/-- Work that is about one validator, or about none. -/
inductive Job.Plain : Job → Prop where
  | keep (block : BlockRecord) : Plain (.keep block)
  | recheck (operator : String) (height : Nat) : Plain (.recheck operator height)
  | refetch (operator : String) : Plain (.refetch operator)

/-- A step that passes a validator by. -/
structure Passes {κ : Type} [Chain κ] (operator : String) (w : World κ Memory)
    (es : List (Effect Memory)) (w' : World κ Memory) : Prop where
  standing : w'.store.standing operator = w.store.standing operator
  window : w'.window = w.window
  silent : es.filterMap (Effect.warning? operator) = []
  tells : ∀ answer, Chain.Tells w.chain operator answer → Chain.Tells w'.chain operator answer
  rechecking : operator ∉ w.rechecking → operator ∉ w'.rechecking
  backlog : w'.backlog.filter (Job.isAbout operator) = w.backlog.filter (Job.isAbout operator)

/-- The chain was asked about somebody else. -/
theorem Passes.asked {κ : Type} [Chain κ] {w w' : World κ Memory} {operator other : String}
    {es : List (Effect Memory)} (hne : operator ≠ other)
    (hs : w'.store.standing other = w.store.standing other)
    (hes : es.filterMap (Effect.warning? other) = [])
    (hw : w' = { w.asked operator with store := w'.store, outbox := w'.outbox }) :
    Passes other w es w' := by
  rw [hw] at hs ⊢
  exact ⟨hs, rfl, hes, fun _ h => h.asked hne, fun hn => hn, rfl⟩

namespace Engine

variable {κ : Type} [Chain κ] (config : TrackerConfig) {w : World κ Memory}
  {operator other : String}

theorem passes_update (b : Block) (hne : operator ≠ other) :
    Keeps (Passes other) (update config b operator) w := by
  have hstanding : ((update config b operator).runIn w).2.store.standing other =
      w.store.standing other := by rw [standing_update, if_neg hne]
  have hsilent : ((update config b operator).effects w).filterMap (Effect.warning? other) = [] := by
    rw [warnings_update, if_neg hne]
  obtain ⟨store, outbox, begun, jobs, hrun, hbegun, hjobs⟩ := update_frame config b operator w
  rw [Keeps]
  rw [hrun] at hstanding ⊢
  refine ⟨hstanding, rfl, hsilent, fun _ h => h, fun hn hmem => ?_, ?_⟩
  · rcases List.mem_append.mp hmem with hmem | hmem
    · exact hn hmem
    · exact hne (hbegun other hmem).1.symm
  · -- an update puts off work about its own operator only
    have hnone : jobs.filter (Job.isAbout other) = [] := by
      refine List.filter_eq_nil_iff.mpr fun job hjob => ?_
      rcases hjobs job hjob with rfl | rfl
      · simpa [Job.isAbout] using hne
      · simpa [Job.isAbout] using hne
    simp [hnone]

theorem passes_checkJailed (height : Nat) (hne : operator ≠ other) :
    Keeps (Passes other) (checkJailed operator height) w := by
  rw [Keeps]
  cases hm : Registry.marked? (w.answer operator) (w.store.validator? operator) with
  | none =>
    obtain ⟨o, -, -, hw, he⟩ := checkJailed_of_none height hm
    have hsilent : ((checkJailed operator height).effects w).filterMap (Effect.warning? other) =
        [] := by
      rcases he with he | he
      · rw [he]
        rfl
      · rw [he]
        rfl
    rw [hw]
    exact .asked hne rfl hsilent rfl
  | some r =>
    have hop := Registry.operator_of_marked? hm
    obtain ⟨hw, he⟩ := checkJailed_of_some height hm
    rw [hw, he]
    refine .asked hne ?_ ?_ rfl
    · simp [Memory.standing, hop, hne]
    · simp [Effect.warning?, Message.warnsOf, hop, hne]

theorem passes_refreshOne (hκ : Chain.Faithful κ) (hne : operator ≠ other) :
    Keeps (Passes other) (Registry.refreshOne config.accountPrefix operator) w := by
  rw [Keeps]
  cases hf : Registry.fetched config.accountPrefix (w.answer operator) with
  | error e =>
    obtain ⟨hw, he⟩ := Registry.refreshOne_of_error hf
    rw [hw, he]
    exact .asked hne rfl rfl rfl
  | ok r =>
    have hop := Registry.operator_of_fetched hκ hf
    obtain ⟨hw, he⟩ := Registry.refreshOne_of_ok hf
    rw [hw, he]
    refine .asked hne ?_ rfl rfl
    simp [Memory.standing, hop, hne]

theorem passes_perform (hκ : Chain.Faithful κ) {job : Job} (hjob : job.Plain)
    (hn : job.isAbout other = false) : Keeps (Passes other) (perform config job) w := by
  cases hjob with
  | keep block => exact ⟨rfl, rfl, rfl, fun _ h => h, fun hn => hn, rfl⟩
  | recheck operator height =>
    have hne : operator ≠ other := by simpa [Job.isAbout] using hn
    obtain ⟨hrun, heff⟩ := perform_recheck config operator height w
    have h : Keeps (Passes other) (checkJailed operator height) w := passes_checkJailed height hne
    rw [Keeps, hrun, heff]
    exact ⟨h.standing, h.window, h.silent, h.tells,
      fun hn hmem => h.rechecking hn (List.mem_of_mem_filter hmem), h.backlog⟩
  | refetch operator =>
    have hne : operator ≠ other := by simpa [Job.isAbout] using hn
    exact (passes_refreshOne config hκ hne).discard

/-! ## Work about the validator itself -/

theorem backlog_perform (job : Job) :
    ((perform config job).runIn w).2.backlog = w.backlog := by
  have h : Keeps (Maintains fun _ => True) (perform config job) w :=
    maintains_perform config (fun _ _ _ _ => trivial) job
  exact h.backlog

theorem perform_self (hκ : Chain.Faithful κ) {job : Job} (hjob : job.Plain)
    (h : job.isAbout operator = true) {answer : Except Failure Snapshot}
    (ha : w.answer operator = answer) :
    (w.store.standing operator).worked config answer (some job) =
      (((perform config job).runIn w).2.store.standing operator,
        ((perform config job).effects w).filterMap (Effect.warning? operator)) := by
  subst ha
  cases hjob with
  | keep block => cases h
  | recheck other height =>
    obtain rfl : other = operator := by simpa [Job.isAbout] using h
    obtain ⟨hrun, heff⟩ := perform_recheck config other height w
    rw [hrun, heff]
    cases hm : Registry.marked? (w.answer other) (w.store.validator? other) with
    | none =>
      obtain ⟨o, -, -, hw, he⟩ := checkJailed_of_none height hm
      rw [hw]
      rcases he with he | he
      · simp [Standing.worked, Memory.standing, hm, he, World.asked]
      · simp [Standing.worked, Memory.standing, hm, he, World.asked, Effect.warning?]
    | some r =>
      have hop := Registry.operator_of_marked? hm
      obtain ⟨hw, he⟩ := checkJailed_of_some height hm
      rw [hw, he]
      simp [Standing.worked, Standing.followers, Memory.standing, hm, hop, Effect.warning?,
        Message.warnsOf, Memory.followers, List.filterMap_cons]
  | refetch other =>
    obtain rfl : other = operator := by simpa [Job.isAbout] using h
    cases hf : Registry.fetched config.accountPrefix (w.answer other) with
    | error e =>
      obtain ⟨hw, he⟩ := Registry.refreshOne_of_error hf
      simp [perform, hw, he, Standing.worked, Memory.standing, hf, World.asked]
    | ok r =>
      have hop := Registry.operator_of_fetched hκ hf
      obtain ⟨hw, he⟩ := Registry.refreshOne_of_ok hf
      simp [perform, hw, he, Standing.worked, Memory.standing, hf, hop, Effect.warning?]

end Engine

end Liveness
