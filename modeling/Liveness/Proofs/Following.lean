import Liveness.Proofs.Jailing
import Liveness.Proofs.Tidy

/-!
# Who follows whom

Requests of targets that succeed put pairs of an operator and a target into a relation, or take them
out of it. The lists of followers are this relation: the latest request about a pair that succeeded
decides, and nothing but requests changes it. A subscription disappears with its last follower if
validators are tracked only while somebody follows them, and never otherwise.
-/

namespace Liveness

open Work

/-! ## Single requests -/

namespace Subscription

variable {sub : Subscription} {target other : String}

/-- The subscription with a target that may be there already. -/
def joined (target : String) (sub : Subscription) : Subscription :=
  (sub.addSubscriber? target).getD sub

/-- The subscription without a target. -/
def left (target : String) (sub : Subscription) : Subscription :=
  { sub with subscribers := sub.subscribers.filter (· != target) }

theorem joined_of_none (h : sub.addSubscriber? target = none) : sub.joined target = sub := by
  rw [joined, h, Option.getD_none]

theorem joined_of_some {sub' : Subscription} (h : sub.addSubscriber? target = some sub') :
    sub.joined target = sub' := by
  rw [joined, h, Option.getD_some]

theorem joined_eq (sub : Subscription) (target : String) :
    (sub.joined target).operator = sub.operator ∧ (sub.joined target).tracking = sub.tracking := by
  by_cases hf : sub.isFollowedBy target = true
  · rw [joined_of_none (by rw [addSubscriber?, if_pos hf])]
    exact ⟨rfl, rfl⟩
  · rw [joined_of_some (by rw [addSubscriber?, if_neg hf])]
    exact ⟨rfl, rfl⟩

theorem mem_subscribers_joined :
    other ∈ (sub.joined target).subscribers ↔ other = target ∨ other ∈ sub.subscribers := by
  by_cases hf : sub.isFollowedBy target = true
  · have hmem : target ∈ sub.subscribers := by simpa [isFollowedBy] using hf
    rw [joined_of_none (by rw [addSubscriber?, if_pos hf])]
    constructor
    · exact Or.inr
    · rintro (rfl | h)
      · exact hmem
      · exact h
  · rw [joined_of_some (by rw [addSubscriber?, if_neg hf])]
    simp [or_comm]

theorem mem_subscribers_left :
    other ∈ (sub.left target).subscribers ↔ other ≠ target ∧ other ∈ sub.subscribers := by
  simp [left, and_comm]

theorem hasSubscribers_eq_false_iff : sub.hasSubscribers = false ↔ sub.subscribers = [] := by
  simp [hasSubscribers]

/-- The last target leaves an empty list. -/
theorem subscribers_left_eq_nil_iff (hn : sub.subscribers.Nodup)
    (hf : target ∈ sub.subscribers) :
    (sub.left target).subscribers = [] ↔ sub.subscribers = [target] := by
  constructor
  · intro h
    have hall : ∀ other ∈ sub.subscribers, other = target := by
      intro other hother
      by_contra hne
      have hmem : other ∈ (sub.left target).subscribers := mem_subscribers_left.mpr ⟨hne, hother⟩
      rw [h] at hmem
      cases hmem
    obtain ⟨first, rest, hs⟩ := List.exists_cons_of_ne_nil (List.ne_nil_of_mem hf)
    rw [hs] at hall hn ⊢
    obtain rfl := hall first List.mem_cons_self
    rcases rest with _ | ⟨second, rest⟩
    · rfl
    · obtain rfl := hall second (by simp)
      exact absurd List.mem_cons_self (List.nodup_cons.mp hn).1
  · intro h
    simp [left, h]

end Subscription

variable {κ : Type} {w : World κ Memory} {operator target : String}

/-- An enrolment tells whether the subscription is a new one. -/
theorem Registry.runIn_ensureSubscription (operator : String) (w : World κ Memory) :
    (ensureSubscription operator).runIn w =
      (.ok (w.store.subscription? operator).isNone,
        { w with store := w.store.enrol operator }) := by
  cases hs : w.store.subscription? operator with
  | some sub =>
    rw [Memory.enrol_of_some hs]
    simp [ensureSubscription, subscription?, Store.findSubscription, hs]
  | none =>
    have hi : Store.insertSubscription w.store (.fresh operator) =
        (.ok (), w.store.putSubscription (.fresh operator)) :=
      Memory.insertSubscription_of_none hs
    rw [Memory.enrol_of_none hs]
    simp [ensureSubscription, subscription?, Store.findSubscription, hs, hi]

namespace Following

/-- A target joins those who follow, or nothing happens to any subscription. Beyond the store and
the chain that is asked nothing changes. -/
theorem subscribe_cases [Chain κ] (accountPrefix operator target : String) (w : World κ Memory) :
    ∃ o chain s, (subscribe accountPrefix operator target).runIn w =
        (o, { w with chain := chain, store := s }) ∧
      ((∃ e, o = .error e ∧ s.subscriptions = w.store.subscriptions) ∨
        (o = .ok (((w.store.subscription? operator).getD (.fresh operator)).joined target) ∧
          ∀ other, s.subscription? other =
            if operator = other then
              some (((w.store.subscription? operator).getD (.fresh operator)).joined target)
            else w.store.subscription? other)) := by
  by_cases ha : Address.isOperator operator accountPrefix = true
  swap
  · refine ⟨.error (.failed (.invalidAddress operator)), w.chain, w.store, ?_, Or.inl ⟨_, rfl, rfl⟩⟩
    simp [subscribe, ha]
  cases hf : Registry.fetched accountPrefix (w.answer operator) with
  | error e =>
    refine ⟨.error (.failed e), (w.asked operator).chain, w.store, ?_, Or.inl ⟨_, rfl, rfl⟩⟩
    simp [subscribe, ha, (Registry.refreshOne_of_error hf).1, World.asked]
  | ok r =>
    have hfresh := (Registry.refreshOne_of_ok hf).1
    by_cases hj : r.jailed = true
    · refine ⟨.error (.failed (.rejected s!"{r.displayName} is jailed right now")),
        (w.asked operator).chain, w.store.putValidator r, ?_, Or.inl ⟨_, rfl, rfl⟩⟩
      simp [subscribe, ha, hfresh, hj, World.asked]
    have hens := Registry.runIn_ensureSubscription operator
      { w.asked operator with store := w.store.putValidator r }
    have hsubs := (w.store.putValidator r).subscription?_enrol operator
    simp only [Memory.subscription?_putValidator] at hens hsubs
    generalize (w.store.putValidator r).enrol operator = s at hens hsubs
    have hsome := (hsubs operator).trans (if_pos rfl)
    have hothers : ∀ other, operator ≠ other →
        s.subscription? other = w.store.subscription? other :=
      fun other hne => (hsubs other).trans (if_neg hne)
    clear hsubs
    -- from here on it does not matter whether the subscription was there before
    generalize (w.store.subscription? operator).getD (.fresh operator) = sub at hsome ⊢
    have hop : sub.operator = operator := Memory.operator_of_subscription? hsome
    cases hadd : sub.addSubscriber? target with
    | none =>
      have hrun : (subscribe accountPrefix operator target).runIn w =
          (.ok sub, { w.asked operator with store := s }) := by
        simp [subscribe, ha, hfresh, hj, hens, Registry.subscription?, Store.findSubscription,
          hsome, hadd]
      rw [Subscription.joined_of_none hadd]
      refine ⟨_, _, _, hrun, Or.inr ⟨rfl, fun other => ?_⟩⟩
      by_cases hne : operator = other
      · rw [if_pos hne, ← hne]
        exact hsome
      · rw [if_neg hne]
        exact hothers other hne
    | some sub' =>
      have hjoin : sub.joined target = sub' := Subscription.joined_of_some hadd
      obtain ⟨hop', htracking⟩ := sub.joined_eq target
      rw [hjoin] at hop' htracking
      have hset : Store.setSubscribers s operator sub'.subscribers =
          (.ok (), s.putSubscription sub') := by
        rw [Memory.setSubscribers_of_some hsome, ← hop', ← htracking]
      have hrun : (subscribe accountPrefix operator target).runIn w =
          (.ok sub', { w.asked operator with store := s.putSubscription sub' }) := by
        simp [subscribe, ha, hfresh, hj, hens, Registry.subscription?, Store.findSubscription,
          hsome, hadd, hset, Except.map]
      rw [hjoin]
      refine ⟨_, _, _, hrun, Or.inr ⟨rfl, fun other => ?_⟩⟩
      rw [Memory.subscription?_putSubscription, hop', hop]
      by_cases hne : operator = other
      · rw [if_pos hne, if_pos hne]
      · rw [if_neg hne, if_neg hne]
        exact hothers other hne

/-- A target leaves those who follow, or nothing happens. -/
theorem unsubscribe_cases (trackAll : Bool) (operator target : String) (w : World κ Memory) :
    (target ∉ w.store.followers operator ∧
      ∃ e, (unsubscribe trackAll operator target).runIn w = (.error e, w)) ∨
    ∃ sub, w.store.subscription? operator = some sub ∧ target ∈ sub.subscribers ∧
      ((unsubscribe trackAll operator target).runIn w).1 = .ok () ∧
      ∀ other, ((unsubscribe trackAll operator target).runIn w).2.store.subscription? other =
        if operator = other then
          if (sub.left target).hasSubscribers = false ∧ trackAll = false then none
          else some (sub.left target)
        else w.store.subscription? other := by
  cases hs : w.store.subscription? operator with
  | none =>
    refine Or.inl ⟨?_, .failed (Store.noSubscription operator), ?_⟩
    · simp [Memory.followers, hs]
    · simp [unsubscribe, Registry.subscription?, Store.findSubscription, hs]
  | some sub =>
    by_cases hf : sub.isFollowedBy target = true
    swap
    · have hr : sub.removeSubscriber? target = none := by
        rw [Subscription.removeSubscriber?, if_neg hf]
      refine Or.inl ⟨?_, .failed (.notFound s!"{target} is not subscribed to {operator}"), ?_⟩
      · rw [Memory.followers_of_subscription? hs]
        simpa [Subscription.isFollowedBy] using hf
      · simp [unsubscribe, Registry.subscription?, Store.findSubscription, hs, hr]
    have hr : sub.removeSubscriber? target = some (sub.left target) := by
      rw [Subscription.removeSubscriber?, if_pos hf]
      rfl
    have hmem : target ∈ sub.subscribers := by simpa [Subscription.isFollowedBy] using hf
    refine Or.inr ⟨sub, rfl, hmem, ?_⟩
    by_cases hl : (sub.left target).hasSubscribers = false ∧ trackAll = false
    · have hd : Store.deleteSubscription w.store operator =
          (.ok (), w.store.deleteSubscription operator) := rfl
      have hrun : (unsubscribe trackAll operator target).runIn w =
          (.ok (), { w with store := w.store.deleteSubscription operator }) := by
        simp [unsubscribe, Registry.subscription?, Store.findSubscription, hs, hr, hl, hd]
      rw [hrun]
      refine ⟨rfl, fun other => ?_⟩
      rw [if_pos hl, Memory.subscription?_deleteSubscription]
    · have hset : Store.setSubscribers w.store operator (sub.left target).subscribers =
          (.ok (), w.store.putSubscription (sub.left target)) :=
        Memory.setSubscribers_of_some hs _
      have hrun : (unsubscribe trackAll operator target).runIn w =
          (.ok (), { w with store := w.store.putSubscription (sub.left target) }) := by
        simp only [unsubscribe, Registry.subscription?, Store.findSubscription, hs, hr, hset,
          runIn_bind, runIn_fetch, runIn_commit, Bool.and_eq_true, Bool.not_eq_true', if_neg hl]
      rw [hrun]
      refine ⟨rfl, fun other => ?_⟩
      rw [if_neg hl, Memory.subscription?_putSubscription]
      obtain rfl := Memory.operator_of_subscription? hs
      rfl

end Following

/-! ## The relation -/

/-- A request that succeeded. -/
structure Grant where
  /-- The operator. -/
  operator : String
  /-- The target. -/
  target : String
  /-- The target follows the operator from now on, or it does so no longer. -/
  follows : Bool
  deriving DecidableEq, Repr

namespace Grant

/-- What the latest grant about an operator and a target says. -/
def latest? (gs : List Grant) (operator target : String) : Option Bool :=
  (gs.filter fun g => g.operator = operator ∧ g.target = target).getLast?.map (·.follows)

variable {gs : List Grant} {g : Grant} {operator target : String}

theorem latest?_nil : latest? [] operator target = none := rfl

theorem latest?_concat :
    latest? (gs ++ [g]) operator target =
      if g.operator = operator ∧ g.target = target then some g.follows
      else latest? gs operator target := by
  by_cases h : g.operator = operator ∧ g.target = target
  · simp [latest?, List.filter_append, h]
  · simp [latest?, List.filter_append, h]

end Grant

section Runs

variable [Chain κ] (config : TrackerConfig)

/-- What an operation grants: nothing, unless it is a request that succeeds. -/
def Operation.grant? (w : World κ Memory) : Operation κ → Option Grant
  | .act (.subscribe operator target) =>
    match ((Following.subscribe config.accountPrefix operator target).runIn w).1 with
    | .ok _ => some ⟨operator, target, true⟩
    | .error _ => none
  | .act (.unsubscribe operator target) =>
    match ((Following.unsubscribe config.trackAll operator target).runIn w).1 with
    | .ok _ => some ⟨operator, target, false⟩
    | .error _ => none
  | _ => none

/-- All that operations grant, oldest first. -/
def Engine.granted (w : World κ Memory) : List (Operation κ) → List Grant
  | [] => []
  | o :: os => (o.grant? config w).toList ++ granted ((o.step config).runIn w).2 os

end Runs

/-! ## What leaves the relation alone -/

namespace Memory

variable {s s' : Memory}

theorem followers_of_none (h : s.subscription? operator = none) : s.followers operator = [] := by
  rw [followers, h]
  rfl

theorem subscribers_getD (s : Memory) (operator : String) :
    ((s.subscription? operator).getD (.fresh operator)).subscribers = s.followers operator := by
  cases hs : s.subscription? operator with
  | none => exact (followers_of_none hs).symm
  | some sub => exact (followers_of_subscription? hs).symm

/-- The lists of followers are those of `s`, and every subscription of `s` is there. -/
def SameFollowers (s s' : Memory) : Prop :=
  ∀ operator, s'.followers operator = s.followers operator ∧
    (s.subscription? operator ≠ none → s'.subscription? operator ≠ none)

theorem SameFollowers.refl (s : Memory) : s.SameFollowers s := fun _ => ⟨rfl, id⟩

/-- A write of a subscription leaves the relation alone if it leaves its targets alone. -/
theorem SameFollowers.putSubscription (h : s.SameFollowers s') {sub : Subscription}
    (hsub : sub.subscribers = s'.followers sub.operator) :
    s.SameFollowers (s'.putSubscription sub) := by
  intro operator
  by_cases hop : sub.operator = operator
  · have hput : (s'.putSubscription sub).subscription? operator = some sub := by simp [hop]
    refine ⟨?_, fun _ => by simp [hput]⟩
    rw [followers_of_subscription? hput, hsub, hop]
    exact (h operator).1
  · have hput : (s'.putSubscription sub).subscription? operator = s'.subscription? operator := by
      simp [hop]
    refine ⟨?_, fun hs => hput ▸ (h operator).2 hs⟩
    rw [followers, hput]
    exact (h operator).1

theorem sameFollowers_upkeep (accountPrefix : String) (s : Memory) :
    KeptBy (Upkeep accountPrefix) s.SameFollowers := by
  intro s₁ s₂ hw h
  cases hw with
  | keep block limit => exact h
  | refresh hr => exact h
  | jail hr => exact h
  | enrol hs => exact h.putSubscription (followers_of_none hs).symm
  | restart hs =>
    have hop := operator_of_subscription? hs
    refine h.putSubscription ?_
    rw [hop]
    exact (followers_of_subscription? hs).symm

theorem sameFollowers_observe (limit height : Nat) (s : Memory) :
    KeptBy (Observe limit height) s.SameFollowers := by
  intro s₁ s₂ hw h
  cases hw with
  | intro found window hs hr =>
    have hop := operator_of_subscription? hs
    refine h.putSubscription ?_
    rw [hop]
    exact (followers_of_subscription? hs).symm

/-- The lists of followers are what was granted. -/
def Grants (s : Memory) (gs : List Grant) : Prop :=
  ∀ operator target,
    target ∈ s.followers operator ↔ Grant.latest? gs operator target = some true

end Memory

/-! ## Single operations -/

namespace Operation

variable [Chain κ] (config : TrackerConfig) {o : Operation κ}

/-- Only a request changes a list of followers or removes a subscription. -/
theorem sameFollowers_step (ho : ¬ o.IsRequest) (hw : w.Idle) :
    w.store.SameFollowers ((o.step config).runIn w).2.store := by
  have h : Carried w.store.SameFollowers o w ((o.step config).runIn w).2 :=
    carried_step config (Memory.sameFollowers_upkeep _ _) (fun hr => absurd hr ho)
      (fun b _ _ => Memory.sameFollowers_observe _ b.height _) hw (.refl w.store)
  exact h.store

theorem idle_step (hw : w.Idle) : ((o.step config).runIn w).2.Idle :=
  (carried_step config (P := fun _ => True) (fun _ _ _ _ => trivial) (fun _ _ _ _ _ => trivial)
    (fun _ _ _ _ _ _ _ => trivial) hw trivial).idle

theorem store_step_subscribe (hw : w.Idle) :
    (((Operation.act (.subscribe operator target)).step config).runIn w).2.store =
      ((Following.subscribe config.accountPrefix operator target).runIn w).2.store := by
  rw [(runIn_step_of_ne config (fun b h => by cases h) hw.backlog).1, work, Action.work,
    runIn_discard]

theorem store_step_unsubscribe (hw : w.Idle) :
    (((Operation.act (.unsubscribe operator target)).step config).runIn w).2.store =
      ((Following.unsubscribe config.trackAll operator target).runIn w).2.store := by
  rw [(runIn_step_of_ne config (fun b h => by cases h) hw.backlog).1, work, Action.work]

theorem grant?_of_not_isRequest (ho : ¬ o.IsRequest) : o.grant? config w = none := by
  unfold grant?
  split
  · rename_i operator target
    exact absurd ⟨operator, target, Or.inl rfl⟩ ho
  · rename_i operator target
    exact absurd ⟨operator, target, Or.inr rfl⟩ ho
  · rfl

variable {gs : List Grant}

theorem grants_subscribe (operator target : String) (hw : w.Idle) (h : w.store.Grants gs) :
    (((Operation.act (.subscribe operator target)).step config).runIn w).2.store.Grants
      (gs ++ ((Operation.act (.subscribe operator target)).grant? config w).toList) := by
  rw [store_step_subscribe config hw]
  obtain ⟨o, chain, s, hrun, ⟨e, rfl, hsame⟩ | ⟨rfl, hsubs⟩⟩ :=
    Following.subscribe_cases config.accountPrefix operator target w
  · have hg : (Operation.act (.subscribe operator target)).grant? config w = none := by
      simp [grant?, hrun]
    rw [hg, Option.toList_none, List.append_nil]
    intro op t
    rw [← h op t, hrun, Memory.followers, Memory.subscription?_congr hsame]
    rfl
  · have hg : (Operation.act (.subscribe operator target)).grant? config w =
        some ⟨operator, target, true⟩ := by
      simp [grant?, hrun]
    rw [hg, Option.toList_some, hrun]
    intro op t
    rw [Grant.latest?_concat, Memory.followers, hsubs op]
    by_cases hop : operator = op
    · subst hop
      rw [if_pos rfl, Option.map_some, Option.getD_some, Subscription.mem_subscribers_joined,
        Memory.subscribers_getD, h operator t]
      by_cases ht : target = t
      · simp [ht]
      · simp [ht, Ne.symm ht]
    · rw [if_neg hop, if_neg fun hc => hop hc.1]
      exact h op t

theorem grants_unsubscribe (operator target : String) (hw : w.Idle) (h : w.store.Grants gs) :
    (((Operation.act (.unsubscribe operator target)).step config).runIn w).2.store.Grants
      (gs ++ ((Operation.act (.unsubscribe operator target)).grant? config w).toList) := by
  rw [store_step_unsubscribe config hw]
  rcases Following.unsubscribe_cases config.trackAll operator target w with
    ⟨-, e, he⟩ | ⟨sub, hs, -, hok, hsubs⟩
  · have hg : (Operation.act (.unsubscribe operator target)).grant? config w = none := by
      simp [grant?, he]
    rw [hg, Option.toList_none, List.append_nil, he]
    exact h
  · have hg : (Operation.act (.unsubscribe operator target)).grant? config w =
        some ⟨operator, target, false⟩ := by
      simp [grant?, hok]
    rw [hg, Option.toList_some]
    intro op t
    rw [Grant.latest?_concat]
    by_cases hop : operator = op
    · subst hop
      -- the list is that without the target, be it kept or dropped with its subscription
      have hleft : ∀ t, t ∈ (((Following.unsubscribe config.trackAll operator target).runIn
          w).2.store.followers operator) ↔ t ∈ (sub.left target).subscribers := by
        intro t
        rw [Memory.followers, hsubs operator, if_pos rfl]
        split_ifs with hl
        · rw [Subscription.hasSubscribers_eq_false_iff.mp hl.1]
          simp
        · simp
      have hbefore := h operator t
      rw [Memory.followers_of_subscription? hs] at hbefore
      rw [hleft t, Subscription.mem_subscribers_left, hbefore]
      by_cases ht : target = t
      · simp [ht]
      · simp [ht, Ne.symm ht]
    · rw [if_neg fun hc => hop hc.1, Memory.followers, hsubs op, if_neg hop]
      exact h op t

/-- The relation follows the grants, operation by operation. -/
theorem grants_step (o : Operation κ) (hw : w.Idle) (h : w.store.Grants gs) :
    ((o.step config).runIn w).2.store.Grants (gs ++ (o.grant? config w).toList) := by
  by_cases ho : o.IsRequest
  · obtain ⟨operator, target, rfl | rfl⟩ := ho
    · exact grants_subscribe config operator target hw h
    · exact grants_unsubscribe config operator target hw h
  · have hsame := sameFollowers_step config ho hw
    rw [grant?_of_not_isRequest config ho, Option.toList_none, List.append_nil]
    intro operator target
    rw [(hsame operator).1]
    exact h operator target

/-- An unsubscription drops the subscription of its operator if it removes the last follower and
validators are not tracked anyway. -/
theorem dropped_unsubscribe_iff {op : String} (hw : w.Idle) (hn : w.store.Tidy) {sub : Subscription}
    (hs : w.store.subscription? operator = some sub) :
    (((Operation.act (.unsubscribe op target)).step config).runIn w).2.store.subscription?
        operator = none ↔
      config.trackAll = false ∧ op = operator ∧ sub.subscribers = [target] := by
  rw [store_step_unsubscribe config hw]
  rcases Following.unsubscribe_cases config.trackAll op target w with
    ⟨hnot, e, he⟩ | ⟨sub', hs', hmem, -, hsubs⟩
  · rw [he]
    refine iff_of_false (by simp [hs]) ?_
    rintro ⟨-, rfl, hlast⟩
    rw [Memory.followers_of_subscription? hs, hlast] at hnot
    exact hnot (List.mem_singleton_self target)
  · rw [hsubs operator]
    by_cases hop : op = operator
    · subst hop
      obtain rfl := Option.some.inj (hs.symm.trans hs')
      have hlast := Subscription.subscribers_left_eq_nil_iff (hn.nodup_of_subscription? hs) hmem
      rw [← Subscription.hasSubscribers_eq_false_iff] at hlast
      rw [if_pos rfl]
      by_cases hl : (sub.left target).hasSubscribers = false ∧ config.trackAll = false
      · rw [if_pos hl]
        exact iff_of_true rfl ⟨hl.2, rfl, hlast.mp hl.1⟩
      · rw [if_neg hl]
        refine iff_of_false (by simp) ?_
        rintro ⟨hall, -, h⟩
        exact hl ⟨hlast.mpr h, hall⟩
    · rw [if_neg hop]
      refine iff_of_false (by simp [hs]) ?_
      rintro ⟨-, h, -⟩
      exact hop h

/-- A subscription disappears with its last follower, unless validators are tracked anyway, and
never otherwise. -/
theorem dropped_iff (o : Operation κ) (hw : w.Idle) (hn : w.store.Tidy) {sub : Subscription}
    (hs : w.store.subscription? operator = some sub) :
    ((o.step config).runIn w).2.store.subscription? operator = none ↔
      config.trackAll = false ∧ ∃ target, o = .act (.unsubscribe operator target) ∧
        sub.subscribers = [target] := by
  by_cases ho : o.IsRequest
  swap
  · have hkept := (sameFollowers_step config ho hw operator).2 (by simp [hs])
    refine iff_of_false hkept ?_
    rintro ⟨-, target, rfl, -⟩
    exact ho ⟨operator, target, Or.inr rfl⟩
  obtain ⟨op, target, rfl | rfl⟩ := ho
  · rw [store_step_subscribe config hw]
    refine iff_of_false ?_ ?_
    · obtain ⟨o, chain, s, hrun, ⟨e, -, hsame⟩ | ⟨-, hsubs⟩⟩ :=
        Following.subscribe_cases config.accountPrefix op target w
      · rw [hrun, Memory.subscription?_congr hsame, hs]
        simp
      · rw [hrun, hsubs operator]
        split_ifs
        · simp
        · simp [hs]
    · rintro ⟨-, target', h, -⟩
      cases h
  · rw [dropped_unsubscribe_iff config hw hn hs]
    constructor
    · rintro ⟨hall, rfl, hlast⟩
      exact ⟨hall, target, rfl, hlast⟩
    · rintro ⟨hall, target', h, hlast⟩
      cases h
      exact ⟨hall, rfl, hlast⟩

end Operation

/-! ## Runs -/

namespace Engine

variable [Chain κ] (config : TrackerConfig)

theorem grants_after (os : List (Operation κ)) (hw : w.Idle) {gs : List Grant}
    (h : w.store.Grants gs) :
    (after config w os).store.Grants (gs ++ granted config w os) := by
  induction os generalizing w gs with
  | nil =>
    rw [granted, List.append_nil]
    exact h
  | cons o os ih =>
    have hstep := Operation.grants_step config o hw h
    have hrest := ih (Operation.idle_step config hw) hstep
    rw [granted, ← List.append_assoc]
    exact hrest

omit [Chain κ] in
theorem mem_followedBy (hs : w.store.Sorted) (target : String) :
    ∃ l, (Following.followedBy target).runIn w = (.ok l, w) ∧ l.Pairwise (· < ·) ∧
      ∀ operator, operator ∈ l ↔ target ∈ w.store.followers operator := by
  refine ⟨(w.store.subscriptions.filter (·.isFollowedBy target)).map (·.operator), ?_, ?_, ?_⟩
  · simp [Following.followedBy, Store.allSubscriptions, Except.map]
  · have hsorted := hs.subscriptions.filter (·.isFollowedBy target)
    exact List.pairwise_map.mpr hsorted
  · intro operator
    constructor
    · intro hmem
      obtain ⟨sub, hsub, rfl⟩ := List.mem_map.mp hmem
      obtain ⟨hin, hf⟩ := List.mem_filter.mp hsub
      have hfind := hs.subscription?_eq_some_iff.mpr ⟨hin, rfl⟩
      rw [Memory.followers_of_subscription? hfind]
      simpa [Subscription.isFollowedBy] using hf
    · intro hmem
      cases hfind : w.store.subscription? operator with
      | none =>
        rw [Memory.followers_of_none hfind] at hmem
        cases hmem
      | some sub =>
        rw [Memory.followers_of_subscription? hfind] at hmem
        obtain ⟨hin, hop⟩ := hs.subscription?_eq_some_iff.mp hfind
        refine List.mem_map.mpr ⟨sub, List.mem_filter.mpr ⟨hin, ?_⟩, hop⟩
        simpa [Subscription.isFollowedBy] using hmem

/-- In every run, whatever the chain answers, the operators that a target follows are those for
which its latest request that succeeded was to follow. A request that fails changes no subscription,
and one to follow changes no tracking and no other subscription. Nothing but requests changes a list
of followers, and a subscription is dropped exactly when its last follower leaves while validators
are not tracked anyway. -/
theorem followedBy_iff_granted (config : TrackerConfig) (chain : κ) (os : List (Operation κ)) :
    let w := reachedBy config chain os
    let gs := granted config (.start config chain .empty) os
    (∀ target, ∃ l, (Following.followedBy target).runIn w = (.ok l, w) ∧ l.Pairwise (· < ·) ∧
      ∀ operator, operator ∈ l ↔ Grant.latest? gs operator target = some true) ∧
    (∀ operator target,
      (∃ e, ((Following.subscribe config.accountPrefix operator target).runIn w).1 = .error e) →
      ((Following.subscribe config.accountPrefix operator target).runIn w).2.store.subscriptions =
        w.store.subscriptions) ∧
    (∀ operator target,
      (∃ e, ((Following.unsubscribe config.trackAll operator target).runIn w).1 = .error e) →
      ((Following.unsubscribe config.trackAll operator target).runIn w).2.store.subscriptions =
        w.store.subscriptions) ∧
    (∀ operator target,
      let s := ((Following.subscribe config.accountPrefix operator target).runIn w).2.store
      (∀ sub ∈ w.store.subscription? operator, ∃ sub' ∈ s.subscription? operator,
        sub'.tracking = sub.tracking) ∧
      ∀ other ≠ operator, s.subscription? other = w.store.subscription? other) ∧
    (∀ o : Operation κ, ¬ o.IsRequest → ∀ operator,
      ((o.step config).runIn w).2.store.followers operator = w.store.followers operator) ∧
    ∀ (o : Operation κ) (operator : String), ∀ sub ∈ w.store.subscription? operator,
      (((o.step config).runIn w).2.store.subscription? operator = none ↔
        config.trackAll = false ∧ ∃ target, o = .act (.unsubscribe operator target) ∧
          sub.subscribers = [target]) := by
  intro w gs
  obtain ⟨hidle, htidy⟩ := tidy_reachedBy config chain os
  have hgrants : w.store.Grants gs := by
    have h0 : (Memory.empty).Grants [] := fun operator target => by
      simp [Memory.followers, Memory.subscription?, Memory.empty, Rows.find?, Grant.latest?_nil]
    exact grants_after config (w := .start config chain .empty) os ⟨rfl, rfl⟩ h0
  refine ⟨?_, ?_, ?_, ?_, ?_, ?_⟩
  · intro target
    obtain ⟨l, hl, hsorted, hmem⟩ := mem_followedBy htidy.sorted target
    exact ⟨l, hl, hsorted, fun operator => (hmem operator).trans (hgrants operator target)⟩
  · rintro operator target ⟨e, he⟩
    obtain ⟨o, chain, s, hrun, ⟨_, -, hsame⟩ | ⟨rfl, -⟩⟩ :=
      Following.subscribe_cases config.accountPrefix operator target w
    · rw [hrun]
      exact hsame
    · rw [hrun] at he
      cases he
  · rintro operator target ⟨e, he⟩
    rcases Following.unsubscribe_cases config.trackAll operator target w with
      ⟨-, _, hrun⟩ | ⟨_, -, -, hok, -⟩
    · rw [hrun]
    · rw [hok] at he
      cases he
  · intro operator target s'
    obtain ⟨o, chain, s, hrun, hcases⟩ :=
      Following.subscribe_cases config.accountPrefix operator target w
    obtain rfl : s' = s := congrArg (·.2.store) hrun
    rcases hcases with ⟨_, -, hsame⟩ | ⟨-, hsubs⟩
    · have hall : ∀ other, s'.subscription? other = w.store.subscription? other :=
        Memory.subscription?_congr hsame
      exact ⟨fun sub hsub => ⟨sub, (hall operator).trans hsub, rfl⟩, fun other _ => hall other⟩
    · refine ⟨fun sub hsub => ?_, fun other hne => (hsubs other).trans (if_neg (Ne.symm hne))⟩
      refine ⟨_, (hsubs operator).trans (if_pos rfl), ?_⟩
      rw [(Subscription.joined_eq _ target).2, Option.mem_def.mp hsub, Option.getD_some]
  · intro o ho operator
    exact (Operation.sameFollowers_step config ho hidle operator).1
  · intro o operator sub hsub
    exact Operation.dropped_iff config o hidle htidy hsub

/-- Two targets follow a validator, and the first one leaves again. -/
theorem followedBy_iff_granted_of_leave :
    let os : List (Operation Scripted) :=
      [.act (.turn (Alpha.chain false)), .act (.subscribe Alpha.operator "chat-1"),
        .act (.subscribe Alpha.operator "chat-2"), .act (.unsubscribe Alpha.operator "chat-1")]
    let w := reachedBy .standard Scripted.empty os
    let again :=
      (Following.unsubscribe TrackerConfig.standard.trackAll Alpha.operator "chat-1").runIn w
    let last : Operation Scripted := .act (.unsubscribe Alpha.operator "chat-2")
    (∃ l, (Following.followedBy "chat-2").runIn w = (.ok l, w) ∧ Alpha.operator ∈ l) ∧
      (∃ l, (Following.followedBy "chat-1").runIn w = (.ok l, w) ∧ Alpha.operator ∉ l) ∧
      (∃ e, again.1 = .error e) ∧ again.2.store.subscriptions = w.store.subscriptions ∧
      ((last.step .standard).runIn w).2.store.subscription? Alpha.operator = none := by
  intro os w again last
  obtain ⟨hin, hout, hagain, hsub⟩ :
      Grant.latest? (granted .standard (.start .standard Scripted.empty .empty) os) Alpha.operator
        "chat-2" = some true ∧
      Grant.latest? (granted .standard (.start .standard Scripted.empty .empty) os) Alpha.operator
        "chat-1" = some false ∧
      again.1 = .error (.failed (.notFound s!"chat-1 is not subscribed to {Alpha.operator}")) ∧
      w.store.subscription? Alpha.operator =
        some ⟨Alpha.operator, .fresh, ["chat-2"]⟩ := by
    decide +kernel
  have h := followedBy_iff_granted .standard Scripted.empty os
  rw [show reachedBy .standard Scripted.empty os = w from rfl] at h
  clear_value w
  obtain ⟨hlists, -, hfailed, -, -, hdropped⟩ := h
  refine ⟨?_, ?_, ⟨_, hagain⟩, hfailed Alpha.operator "chat-1" ⟨_, hagain⟩, ?_⟩
  · obtain ⟨l, hl, -, hmem⟩ := hlists "chat-2"
    exact ⟨l, hl, (hmem Alpha.operator).mpr hin⟩
  · obtain ⟨l, hl, -, hmem⟩ := hlists "chat-1"
    refine ⟨l, hl, fun h => ?_⟩
    have hgranted := (hmem Alpha.operator).mp h
    rw [hout] at hgranted
    cases hgranted
  · exact (hdropped last Alpha.operator _ hsub).mpr ⟨rfl, "chat-2", rfl, rfl⟩

end Engine

end Liveness
