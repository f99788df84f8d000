import Liveness.Proofs.Operations
import Liveness.Proofs.Rows

/-!
# Tidy stores

In every run the rows of the store are in order and no target stands twice among those who follow a
validator.
-/

namespace Liveness

namespace Subscription

variable {sub sub' : Subscription} {target : String}

theorem nodup_of_addSubscriber? (h : sub.subscribers.Nodup)
    (ha : sub.addSubscriber? target = some sub') : sub'.subscribers.Nodup := by
  rw [addSubscriber?] at ha
  by_cases hf : sub.isFollowedBy target = true
  · rw [if_pos hf] at ha
    cases ha
  · rw [if_neg hf] at ha
    obtain rfl := Option.some.inj ha
    have hmem : target ∉ sub.subscribers := by simpa [isFollowedBy] using hf
    refine List.nodup_append.mpr ⟨h, List.pairwise_singleton _ target, fun a haa b hb => ?_⟩
    rw [List.mem_singleton.mp hb]
    exact fun heq => hmem (heq ▸ haa)

theorem nodup_of_removeSubscriber? (h : sub.subscribers.Nodup)
    (hr : sub.removeSubscriber? target = some sub') : sub'.subscribers.Nodup := by
  rw [removeSubscriber?] at hr
  split_ifs at hr
  obtain rfl := Option.some.inj hr
  exact List.Pairwise.filter _ h

end Subscription

namespace Memory

/-- The rows are in order, and no target follows a validator twice. -/
structure Tidy (s : Memory) : Prop where
  sorted : s.Sorted
  subscribers : ∀ sub ∈ s.subscriptions, sub.subscribers.Nodup

variable {config : TrackerConfig} {height : Nat} {s : Memory}

theorem Tidy.putSubscription (h : s.Tidy) {sub : Subscription} (hsub : sub.subscribers.Nodup) :
    (s.putSubscription sub).Tidy where
  sorted := h.sorted.putSubscription sub
  subscribers := by
    intro other hother
    rcases Rows.mem_put hother with rfl | hother
    · exact hsub
    · exact h.subscribers other hother

theorem Tidy.nodup_of_subscription? (h : s.Tidy) {operator : String} {sub : Subscription}
    (hs : s.subscription? operator = some sub) : sub.subscribers.Nodup :=
  h.subscribers sub (mem_of_subscription? hs)

theorem tidy_empty : Memory.empty.Tidy where
  sorted := sorted_empty
  subscribers := by intro sub hsub; cases hsub

theorem tidy_upkeep : KeptBy (Upkeep config.accountPrefix) Tidy := by
  intro s s' hw h
  cases hw with
  | keep block limit => exact ⟨h.sorted.insertBlock block limit, h.subscribers⟩
  | refresh hr => exact ⟨h.sorted.putValidator _, h.subscribers⟩
  | jail hr => exact ⟨h.sorted.putValidator _, h.subscribers⟩
  | enrol hs => exact h.putSubscription List.nodup_nil
  | restart hs =>
    have hnodup := h.nodup_of_subscription? hs
    exact h.putSubscription hnodup

theorem tidy_enlist : KeptBy (Enlist config.trackAll) Tidy := by
  intro s s' hw h
  cases hw with
  | follow hs ht =>
    have hnodup := Subscription.nodup_of_addSubscriber? (h.nodup_of_subscription? hs) ht
    exact h.putSubscription hnodup
  | unfollow hs ht =>
    have hnodup := Subscription.nodup_of_removeSubscriber? (h.nodup_of_subscription? hs) ht
    exact h.putSubscription hnodup
  | drop hs ht hl hn =>
    exact ⟨h.sorted.deleteSubscription _,
      fun sub hsub => h.subscribers sub (Rows.mem_of_mem_erase hsub)⟩

theorem tidy_observe : KeptBy (Observe config.historyWindow height) Tidy := by
  intro s s' hw h
  cases hw with
  | intro found window hs hr =>
    have hnodup := h.nodup_of_subscription? hs
    exact h.putSubscription hnodup

end Memory

namespace Engine

/-- After every run the store is tidy and nothing is left to do. -/
theorem tidy_reachedBy {κ : Type} [Chain κ] (config : TrackerConfig) (chain : κ)
    (os : List (Operation κ)) :
    (reachedBy config chain os).Idle ∧ (reachedBy config chain os).store.Tidy :=
  invariant config chain (P := fun _ s => s.Tidy) (fun _ _ _ _ h => h) (fun _ => Memory.tidy_upkeep)
    (fun _ => Memory.tidy_enlist) (fun _ _ => Memory.tidy_observe) Memory.tidy_empty os

end Engine

end Liveness
