import Mathlib.Tactic.Common
import Liveness.Following
import Liveness.Proofs.Deeds
import Liveness.Proofs.Keeps

/-!
# Which deeds a step does

Over a memory store a step is told by the deeds it may do and the work it may put off. The registry
and those who follow need few kinds: they never tell anybody anything, and they touch no streak but
that of a validator whose record was just seen outside jail.
-/

namespace Liveness

/-- An answer about an operator is about that operator. -/
def Chain.Faithful (κ : Type) [Chain κ] : Prop :=
  ∀ (c : κ) (operator : String) (s : Snapshot),
    (Chain.validator c operator none).1 = .ok s → s.operator = operator

open Work

/-! ## Results that are there -/

section Results

variable {ε ε' α β : Type} {x : Except ε α}

theorem exists_of_bind_eq_ok {f : α → Except ε β} {b : β} (h : (x >>= f) = .ok b) :
    ∃ a, x = .ok a ∧ f a = .ok b := by
  cases x with
  | error e => cases h
  | ok a => exact ⟨a, rfl, h⟩

theorem eq_ok_of_mapError {g : ε → ε'} {a : α} (h : x.mapError g = .ok a) : x = .ok a := by
  cases x with
  | error e => cases h
  | ok b => exact congrArg Except.ok (Except.ok.inj h)

theorem eq_ok_of_toOption {a : α} (h : x.toOption = some a) : x = .ok a := by
  cases x with
  | error e => cases h
  | ok b => exact congrArg Except.ok (Option.some.inj h)

end Results

/-! ## Deeds of a step -/

/-- A step that does deeds in `D` only and puts off work in `J` only. It takes no new block, and
what it sends goes to the outbox. -/
structure Acts {κ : Type} (D : Deed → Prop) (J : Job → Prop) (w : World κ Memory)
    (es : List (Effect Memory)) (w' : World κ Memory) : Prop where
  deeds : Deeds D w.store es
  store : w'.store = Effect.replay w.store es
  height : w'.lastHeight = w.lastHeight
  backlog : ∃ jobs, w'.backlog = w.backlog ++ jobs ∧ ∀ job ∈ jobs, J job
  outbox : w'.outbox = w.outbox ++ es.flatMap Effect.deliveries

variable {κ : Type} {D : Deed → Prop} {J : Job → Prop} {w w' : World κ Memory}

namespace Acts

/-- A step without effects that leaves the store and the work put off as they are. -/
theorem still (hs : w'.store = w.store) (hh : w'.lastHeight = w.lastHeight)
    (hb : w'.backlog = w.backlog) (ho : w'.outbox = w.outbox) : Acts D J w [] w' where
  deeds := .nil _
  store := hs
  height := hh
  backlog := ⟨[], by simpa using hb, by simp⟩
  outbox := by simpa using ho

/-- A step that does one deed. -/
theorem single {d : Deed} {es : List (Effect Memory)} (hd : D d) (hl : d.Leaves w.store es)
    (hs : w'.store = Effect.replay w.store es) (hh : w'.lastHeight = w.lastHeight)
    (hb : w'.backlog = w.backlog) (ho : w'.outbox = w.outbox ++ es.flatMap Effect.deliveries) :
    Acts D J w es w' where
  deeds := .single hd hl
  store := hs
  height := hh
  backlog := ⟨[], by simpa using hb, by simp⟩
  outbox := ho

theorem composable : Composable (Acts (κ := κ) D J) where
  nil w := still rfl rfl rfl rfl
  append {w₁ w₂ w₃ es₁ es₂} h₁ h₂ := by
    obtain ⟨jobs₁, hb₁, hj₁⟩ := h₁.backlog
    obtain ⟨jobs₂, hb₂, hj₂⟩ := h₂.backlog
    exact {
      deeds := h₁.deeds.append (by rw [← h₁.store]; exact h₂.deeds)
      store := by rw [h₂.store, h₁.store, Effect.replay_append]
      height := h₂.height.trans h₁.height
      backlog := ⟨jobs₁ ++ jobs₂, by rw [hb₂, hb₁, List.append_assoc], fun job hjob =>
        (List.mem_append.mp hjob).elim (hj₁ job) (hj₂ job)⟩
      outbox := by rw [h₂.outbox, h₁.outbox, List.flatMap_append, List.append_assoc] }

end Acts

/-! ## Single steps -/

namespace Work

variable {α β : Type}

theorem acts_ask (query : κ → Except Failure α × κ) : Keeps (Acts D J) (ask query) w :=
  Acts.still rfl rfl rfl rfl

theorem acts_commit {change : Memory → Except Stop α × Memory} {d : Deed} (hd : D d)
    (hl : d.Leaves w.store [.stored (change w.store).2]) : Keeps (Acts D J) (commit change) w :=
  Acts.single hd hl rfl rfl rfl (by simp [Effect.deliveries])

theorem acts_broadcast {targets : List String} {message : Message} {d : Deed} (hd : D d)
    (hl : d.Leaves w.store [.sent targets message]) :
    Keeps (Acts D J) (broadcast targets message) w :=
  Acts.single hd hl rfl rfl rfl (by simp [Effect.deliveries])

theorem acts_putOff {job : Job} (hj : J job) : Keeps (Acts D J) (putOff job) w where
  deeds := .nil _
  store := rfl
  height := rfl
  backlog := ⟨[job], rfl, by simpa using hj⟩
  outbox := by simp

/-- A query to the store that does not fail goes on with its answer. -/
theorem acts_fetch_bind {query : Memory → Except Stop α} {f : α → Work κ Memory β} {a : α}
    (hq : query w.store = .ok a) (hf : Keeps (Acts D J) (f a) w) :
    Keeps (Acts D J) (fetch query >>= f) w :=
  Keeps.fetch_bind Acts.composable fun b hb => by
    obtain rfl := Except.ok.inj (hq.symm.trans hb)
    exact hf

end Work

/-! ## The registry -/

namespace Registry

variable {operator : String}

theorem keeps_subscription?_bind {R : World κ Memory → List (Effect Memory) → World κ Memory → Prop}
    {α : Type} {f : Option Subscription → Work κ Memory α} (hR : Composable R)
    (h : ∀ o, w.store.subscription? operator = o → Keeps R (f o) w) :
    Keeps R (subscription? operator >>= f) w :=
  Keeps.fetch_bind hR fun o ho => h o (Except.ok.inj ho)

theorem acts_subscription?_bind {α : Type} {f : Option Subscription → Work κ Memory α}
    (h : ∀ o, w.store.subscription? operator = o → Keeps (Acts D J) (f o) w) :
    Keeps (Acts D J) (subscription? operator >>= f) w :=
  keeps_subscription?_bind Acts.composable h

theorem acts_ensureSubscription (hD : D (.enrol operator)) :
    Keeps (Acts (κ := κ) D J) (ensureSubscription operator) w := by
  refine acts_subscription?_bind fun o hs => ?_
  cases o with
  | some sub => exact keeps_pure Acts.composable _
  | none =>
    refine Keeps.bind Acts.composable (Keeps.isolate ?_) fun o _ => ?_
    · refine acts_commit hD ?_
      rw [Memory.insertSubscription_of_none hs]
      exact .enrol hs
    · cases o with
      | ok u => exact keeps_pure Acts.composable _
      | error f =>
        refine acts_fetch_bind rfl ?_
        split
        · exact keeps_pure Acts.composable _
        · exact keeps_fail Acts.composable f

theorem acts_restart (hD : D (.restart operator))
    (hj : w.store.jailed? operator = some false) :
    Keeps (Acts (κ := κ) D J) (restart operator) w := by
  refine acts_subscription?_bind fun o hs => ?_
  cases o with
  | none => exact keeps_pure Acts.composable _
  | some sub =>
    refine acts_commit hD ?_
    rw [Memory.updateTracking_of_some hs]
    exact .restart hs hj

/-- The record of a validator is what was reported, with the addresses that belong to it. -/
theorem exists_of_recordOf {accountPrefix : String} {s : Snapshot} {r : ValidatorRecord}
    (h : recordOf accountPrefix s = .ok r) :
    ∃ consensus account, Address.consensus s.key = .ok consensus ∧
      Address.selfDelegation s.operator accountPrefix = .ok account ∧
      r = {
        operator := s.operator
        consensus := consensus
        selfDelegation := account
        key := s.key.text
        jailed := s.jailed
        description := s.description } := by
  obtain ⟨consensus, hc, h⟩ := exists_of_bind_eq_ok (eq_ok_of_mapError h)
  obtain ⟨account, ha, h⟩ := exists_of_bind_eq_ok h
  exact ⟨consensus, account, hc, ha, (Except.ok.inj h).symm⟩

theorem operator_of_recordOf {accountPrefix : String} {s : Snapshot} {r : ValidatorRecord}
    (h : recordOf accountPrefix s = .ok r) : r.operator = s.operator := by
  obtain ⟨_, _, -, -, rfl⟩ := exists_of_recordOf h
  rfl

variable [Chain κ] {accountPrefix : String}

theorem acts_refreshAll (hD : ∀ operator, D (.refresh accountPrefix operator)) :
    Keeps (Acts (κ := κ) D J) (refreshAll accountPrefix) w := by
  refine Keeps.bind Acts.composable (acts_ask _) fun snapshots _ => ?_
  refine Keeps.bind Acts.composable ?_ fun _ _ => keeps_pure Acts.composable _
  refine keeps_forM Acts.composable (fun _ => True) (fun r hr w _ => ⟨?_, trivial⟩) trivial
  obtain ⟨s, -, hs⟩ := List.mem_filterMap.mp hr
  exact acts_commit (hD r.operator) (.refresh _ (eq_ok_of_toOption hs))

theorem acts_bootstrap (hr : ∀ operator, D (.refresh accountPrefix operator))
    (he : ∀ operator, D (.enrol operator)) :
    Keeps (Acts (κ := κ) D J) (bootstrap accountPrefix) w := by
  refine Keeps.bind Acts.composable (acts_refreshAll hr) fun _ _ => ?_
  refine acts_fetch_bind rfl ?_
  refine Keeps.bind Acts.composable ?_ fun _ _ => keeps_pure Acts.composable _
  exact keeps_mapM Acts.composable fun r _ w => acts_ensureSubscription (he r.operator)

section Refresh

variable (hκ : Chain.Faithful κ)
include hκ

/-- A refresh either stops without any effect, or writes a record of its operator and gives it. -/
theorem refreshOne_cases (accountPrefix operator : String) (w : World κ Memory) :
    ∃ chain,
      (∃ stop, (refreshOne accountPrefix operator).runIn w =
          (.error stop, { w with chain := chain }) ∧
        (refreshOne accountPrefix operator).effects w = []) ∨
      ∃ s r, recordOf accountPrefix s = .ok r ∧ r.operator = operator ∧
        (refreshOne accountPrefix operator).runIn w =
          (.ok r, { w with chain := chain, store := w.store.putValidator r }) ∧
        (refreshOne accountPrefix operator).effects w = [.stored (w.store.putValidator r)] := by
  refine ⟨(Chain.validator w.chain operator none).2, ?_⟩
  cases hs : (Chain.validator w.chain operator none).1 with
  | error e =>
    refine Or.inl ⟨.failed e, ?_, ?_⟩
    · simp [refreshOne, hs, Except.mapError]
    · simp [refreshOne, hs, Except.mapError]
  | ok s =>
    cases hr : recordOf accountPrefix s with
    | error e =>
      refine Or.inl ⟨.failed e, ?_, ?_⟩
      · simp [refreshOne, hs, hr, Except.mapError]
      · simp [refreshOne, hs, hr, Except.mapError]
    | ok r =>
      refine Or.inr ⟨s, r, hr, (operator_of_recordOf hr).trans (hκ w.chain operator s hs), ?_, ?_⟩
      · simp [refreshOne, hs, hr, Except.mapError, Except.map, Store.upsertValidator]
      · simp [refreshOne, hs, hr, Except.mapError, Store.upsertValidator]

theorem acts_refreshOne (hD : D (.refresh accountPrefix operator)) :
    Keeps (Acts (κ := κ) D J) (refreshOne accountPrefix operator) w := by
  obtain ⟨chain, ⟨stop, hw, he⟩ | ⟨s, r, hr, rfl, hw, he⟩⟩ :=
    refreshOne_cases hκ accountPrefix operator w
  · rw [Keeps, hw, he]
    exact Acts.still rfl rfl rfl rfl
  · rw [Keeps, hw, he]
    exact Acts.single hD (.refresh _ hr) rfl rfl rfl (by simp [Effect.deliveries])

/-- After a refresh the flag is the one of the record that it gives. -/
theorem jailed?_of_refreshOne {r : ValidatorRecord}
    (h : ((refreshOne accountPrefix operator : Work κ Memory _).runIn w).1 = .ok r) :
    ((refreshOne accountPrefix operator : Work κ Memory _).runIn w).2.store.jailed? operator =
      some r.jailed := by
  obtain ⟨chain, ⟨stop, hw, -⟩ | ⟨_, r', -, rfl, hw, -⟩⟩ :=
    refreshOne_cases hκ accountPrefix operator w
  · rw [hw] at h
    cases h
  · rw [hw] at h ⊢
    obtain rfl := Except.ok.inj h
    simp

theorem acts_apply {m : Mutation} (hr : D (.refresh accountPrefix m.operator))
    (he : D (.enrol m.operator)) (hs : D (.restart m.operator)) :
    Keeps (Acts (κ := κ) D J) (apply accountPrefix m) w := by
  refine Keeps.bind Acts.composable (acts_refreshOne hκ hr) fun r hok => ?_
  have hpure : ∀ w, Keeps (Acts D J) (pure r : Work κ Memory _) w :=
    fun _ => keeps_pure Acts.composable r
  cases m with
  | created op =>
    exact Keeps.bind Acts.composable (acts_ensureSubscription he).discard (fun _ _ => hpure _)
  | edited op => exact hpure _
  | unjailed op =>
    have hj := jailed?_of_refreshOne hκ hok
    dsimp only
    split
    · exact hpure _
    · rename_i hout
      rw [eq_false_of_ne_true hout] at hj
      exact Keeps.bind Acts.composable (acts_restart hs hj) fun _ _ => hpure _

theorem acts_scan (hr : ∀ operator, D (.refresh accountPrefix operator))
    (he : ∀ operator, D (.enrol operator)) (hs : ∀ operator, D (.restart operator)) (height : Nat) :
    Keeps (Acts (κ := κ) D J) (scan accountPrefix height) w := by
  refine Keeps.bind Acts.composable (acts_ask _) fun txs _ => ?_
  refine Keeps.bind Acts.composable ?_ fun _ _ => keeps_pure Acts.composable _
  refine keeps_mapM Acts.composable fun m _ w => ?_
  refine Keeps.bind Acts.composable ?_ fun _ _ => keeps_pure Acts.composable _
  exact (acts_apply hκ (hr _) (he _) (hs _)).isolate

end Refresh

end Registry

/-! ## Following -/

namespace Following

variable {operator target : String}

theorem acts_subscribe [Chain κ] (hκ : Chain.Faithful κ) {accountPrefix : String}
    (hr : D (.refresh accountPrefix operator)) (he : D (.enrol operator))
    (hf : D (.follow operator target)) :
    Keeps (Acts (κ := κ) D J) (subscribe accountPrefix operator target) w := by
  unfold subscribe
  dsimp only
  split
  · exact keeps_fail_bind Acts.composable _
  refine Keeps.bind Acts.composable (Registry.acts_refreshOne hκ hr) fun r _ => ?_
  split
  · exact keeps_fail_bind Acts.composable _
  refine Keeps.bind Acts.composable (Registry.acts_ensureSubscription he) fun _ _ => ?_
  refine Registry.acts_subscription?_bind fun o hs => ?_
  cases o with
  | none => exact keeps_fail Acts.composable _
  | some sub =>
    dsimp only
    split
    · exact keeps_pure Acts.composable _
    · rename_i ht
      refine Keeps.bind Acts.composable ?_ fun _ _ => keeps_pure Acts.composable _
      refine acts_commit hf ?_
      rw [Memory.setSubscribers_of_some hs]
      exact .follow hs ht

theorem acts_unsubscribe {trackAll : Bool} (hu : D (.unfollow operator target))
    (hd : D (.drop operator target)) :
    Keeps (Acts (κ := κ) D J) (unsubscribe trackAll operator target) w := by
  refine Registry.acts_subscription?_bind fun o hs => ?_
  cases o with
  | none => exact keeps_fail Acts.composable _
  | some sub =>
    dsimp only
    split
    · exact keeps_fail Acts.composable _
    · rename_i ht
      split
      · rename_i hl
        exact acts_commit hd (.drop hs ht (by simp at hl; exact hl.1))
      · refine acts_commit hu ?_
        rw [Memory.setSubscribers_of_some hs]
        exact .unfollow hs ht

end Following

end Liveness
