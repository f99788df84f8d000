import Liveness.Proofs.Growth
import Liveness.Proofs.Upkeep

/-!
# The update of one validator

What a block makes of a subscription is decided by the subscription, the record of its operator and
the slashing window. The update of a validator changes its own subscription so, sends its own alert,
and leaves everything else alone but for the work that it puts off about its own operator.
-/

namespace Liveness

open Work

namespace Tracking

variable {t : Tracking} {height : Nat} {found jailed : Bool} {window : Float} {limit : Nat}

theorem observe_of_stale (h : (t.observe height found jailed window limit).2 = .stale) :
    (t.observe height found jailed window limit).1 = t := by
  rw [observe] at h ⊢
  rw [observeBy_of_not_accepts (observeBy_eq_stale_iff.mp h)]

end Tracking

/-! ## What a block makes of a subscription -/

namespace Subscription

section Seen

variable (config : TrackerConfig) (b : Block) (window : Float)

/-- What a block shows of a validator with a record. -/
def observed (sub : Subscription) (r : ValidatorRecord) : Tracking × Observation :=
  sub.tracking.observe b.height (b.signedBy r.consensus) r.jailed window config.historyWindow

/-- The subscription after a block, with the record of its operator if there is one. -/
def seen (record? : Option ValidatorRecord) (sub : Subscription) : Subscription :=
  match record? with
  | none => sub
  | some r => { sub with tracking := (sub.observed config b window r).1 }

/-- The alert that a block calls for. -/
def alert? (record? : Option ValidatorRecord) (sub : Subscription) :
    Option (List String × Message) :=
  match record? with
  | none => none
  | some r =>
    match (sub.observed config b window r).2 with
    | .missed counter level true => some (sub.subscribers, .missed r counter b.height level)
    | _ => none

end Seen

variable {config : TrackerConfig} {b : Block} {window : Float} {record? : Option ValidatorRecord}

@[simp] theorem operator_seen (sub : Subscription) :
    (sub.seen config b window record?).operator = sub.operator := by
  cases record? <;> rfl

@[simp] theorem subscribers_seen (sub : Subscription) :
    (sub.seen config b window record?).subscribers = sub.subscribers := by
  cases record? <;> rfl

/-- The alert tells those who follow of misses of the validator with the record. -/
theorem exists_of_alert? {sub : Subscription} {targets : List String} {message : Message}
    (h : sub.alert? config b window record? = some (targets, message)) :
    ∃ r counter level, record? = some r ∧ targets = sub.subscribers ∧
      message = .missed r counter b.height level := by
  unfold alert? at h
  split at h
  · cases h
  · split at h
    · obtain ⟨rfl, rfl⟩ := Prod.mk.inj (Option.some.inj h)
      exact ⟨_, _, _, rfl, rfl, rfl⟩
    · cases h

end Subscription

/-- What one observation writes to a store. -/
inductive Memory.Observe (limit height : Nat) : Memory → Memory → Prop where
  | intro {s : Memory} {operator : String} {sub : Subscription} {r : ValidatorRecord}
      (found : Bool) (window : Float) (hs : s.subscription? operator = some sub)
      (hr : s.validator? operator = some r) :
      Observe limit height s (s.putSubscription { sub with
        tracking := (sub.tracking.observe height found r.jailed window limit).1 })

/-! ## The update -/

/-- The alert of an observation changes the outbox, and it begins a recheck only together with the
work. -/
theorem World.withAlert_frame {κ σ : Type} (w : World κ σ) (sub : Subscription)
    (r : ValidatorRecord) (height : Nat) (o : Observation) :
    ∃ outbox begun jobs,
      w.withAlert sub r height o = { w with
        outbox := outbox
        rechecking := w.rechecking ++ begun
        backlog := w.backlog ++ jobs } ∧
      (∀ o ∈ begun, o = sub.operator ∧ Job.recheck sub.operator height ∈ jobs) ∧
      ∀ job ∈ jobs, job = .recheck sub.operator height := by
  cases hn : o.shouldNotify with
  | false =>
    refine ⟨w.outbox, [], [], ?_, by simp, by simp⟩
    rw [(w.withAlert_of_silent sub hn).1, List.append_nil, List.append_nil]
  | true =>
    obtain ⟨counter, level, rfl⟩ := Observation.exists_of_shouldNotify hn
    let sent : List Delivery :=
      sub.subscribers.map (⟨·, (Message.missed r counter height level).text⟩)
    by_cases hc : w.rechecking.contains sub.operator = true
    · refine ⟨w.outbox ++ sent, [], [], ?_, by simp, by simp⟩
      simp only [withAlert, withRecheck, if_pos hc, List.append_nil, sent]
    · refine ⟨w.outbox ++ sent, [sub.operator], [.recheck sub.operator height], ?_, by simp,
        by simp⟩
      simp only [withAlert, withRecheck, if_neg hc, sent]

namespace Engine

variable {κ : Type} (config : TrackerConfig) (b : Block) {w : World κ Memory}
  {operator other : String}

theorem update_of_no_subscription (hs : w.store.subscription? operator = none) :
    (update config b operator).runIn w = (.ok .stale, w) ∧
      (update config b operator).effects w = [] := by
  simp [update, Registry.subscription?, Store.findSubscription, hs]

theorem update_of_no_record {sub : Subscription} (hs : w.store.subscription? operator = some sub)
    (hr : w.store.validator? operator = none) :
    (update config b operator).runIn w =
        (.ok .stale, { w with backlog := w.backlog ++ [.refetch operator] }) ∧
      (update config b operator).effects w = [] := by
  simp [update, Registry.subscription?, Store.findSubscription, Store.findValidator, hs, hr,
    Except.map]

/-- An update changes no subscription but its own. -/
theorem subscription?_update :
    ((update config b operator).runIn w).2.store.subscription? other =
      if operator = other then
        (w.store.subscription? operator).map
          (·.seen config b w.window (w.store.validator? operator))
      else w.store.subscription? other := by
  by_cases hne : operator = other
  swap
  · rw [if_neg hne, subscription?_update_of_ne hne]
  subst hne
  rw [if_pos rfl]
  cases hs : w.store.subscription? operator with
  | none =>
    rw [(update_of_no_subscription config b hs).1]
    exact hs
  | some sub =>
    cases hr : w.store.validator? operator with
    | none =>
      rw [(update_of_no_record config b hs hr).1]
      exact hs
    | some r =>
      have ht : sub.observed config b w.window r =
          ((sub.observed config b w.window r).1, (sub.observed config b w.window r).2) := rfl
      rw [runIn_update config b hs hr ht]
      dsimp only [Option.map_some, Subscription.seen]
      split
      · rename_i ho
        have hsame : (sub.observed config b w.window r).1 = sub.tracking :=
          Tracking.observe_of_stale ho
        rw [hsame]
        exact hs
      · have hop := Memory.operator_of_subscription? hs
        simp [hop]

/-- An update sends its own alert and no other message. -/
theorem sent_update {β : Type} {f : Effect Memory → Option β} (hf : ∀ s, f (.stored s) = none) :
    ((update config b operator).effects w).filterMap f =
      (((w.store.subscription? operator).bind
        (·.alert? config b w.window (w.store.validator? operator))).bind
          fun p => f (.sent p.1 p.2)).toList := by
  cases hs : w.store.subscription? operator with
  | none =>
    rw [(update_of_no_subscription config b hs).2]
    rfl
  | some sub =>
    cases hr : w.store.validator? operator with
    | none =>
      rw [(update_of_no_record config b hs hr).2]
      rfl
    | some r =>
      rcases ho : sub.observed config b w.window r with ⟨t, o⟩
      have he := effects_update config b hs hr ho
      by_cases hn : o.shouldNotify = true
      · obtain ⟨counter, level, rfl⟩ := Observation.exists_of_shouldNotify hn
        have ha : sub.alert? config b w.window (some r) =
            some (sub.subscribers, .missed r counter b.height level) := by
          simp [Subscription.alert?, ho]
        rw [he, Option.bind_some, ha, Option.bind_some]
        cases hm : f (.sent sub.subscribers (.missed r counter b.height level)) <;>
          simp [Observation.alert, hf, hm]
      · have ha : sub.alert? config b w.window (some r) = none := by
          rcases o with _ | ⟨counter, level, _ | _⟩ | _ | _ <;>
            simp [Subscription.alert?, ho, Observation.shouldNotify] at hn ⊢
        have hsilent : o.alert sub r b.height = ([] : List (Effect Memory)) :=
          (w.withAlert_of_silent sub (by simpa using hn)).2
        rw [he, hsilent, Option.bind_some, ha]
        by_cases hstale : o = .stale
        · simp [hstale]
        · simp [hstale, hf]

/-- An update writes nothing, or one observation. -/
theorem store_update (operator : String) (w : World κ Memory) :
    ((update config b operator).runIn w).2.store = w.store ∨
      Memory.Observe config.historyWindow b.height w.store
        ((update config b operator).runIn w).2.store := by
  cases hs : w.store.subscription? operator with
  | none => exact Or.inl (by rw [(update_of_no_subscription config b hs).1])
  | some sub =>
    cases hr : w.store.validator? operator with
    | none => exact Or.inl (by rw [(update_of_no_record config b hs hr).1])
    | some r =>
      rcases ho : sub.observed config b w.window r with ⟨t, o⟩
      rw [runIn_update config b hs hr ho]
      by_cases hstale : o = .stale
      · exact Or.inl (by rw [if_pos hstale])
      · rw [if_neg hstale]
        have ht : t = (sub.observed config b w.window r).1 := by rw [ho]
        exact Or.inr (ht ▸ .intro (b.signedBy r.consensus) w.window hs hr)

/-- Beyond the store and the outbox an update only puts off work about its own operator, and it
begins a recheck only together with the work. -/
theorem update_frame (operator : String) (w : World κ Memory) :
    ∃ store outbox begun jobs,
      ((update config b operator).runIn w).2 = { w with
        store := store
        outbox := outbox
        rechecking := w.rechecking ++ begun
        backlog := w.backlog ++ jobs } ∧
      (∀ o ∈ begun, o = operator ∧ Job.recheck operator b.height ∈ jobs) ∧
      ∀ job ∈ jobs, job = .refetch operator ∨ job = .recheck operator b.height := by
  cases hs : w.store.subscription? operator with
  | none =>
    refine ⟨w.store, w.outbox, [], [], ?_, by simp, by simp⟩
    rw [(update_of_no_subscription config b hs).1]
    simp
  | some sub =>
    cases hr : w.store.validator? operator with
    | none =>
      refine ⟨w.store, w.outbox, [], [.refetch operator], ?_, by simp, by simp⟩
      rw [(update_of_no_record config b hs hr).1]
      simp
    | some r =>
      rcases ho : sub.observed config b w.window r with ⟨t, o⟩
      obtain rfl := Memory.operator_of_subscription? hs
      rw [runIn_update config b hs hr ho]
      by_cases hstale : o = .stale
      · refine ⟨w.store, w.outbox, [], [], ?_, by simp, by simp⟩
        simp [hstale]
      · obtain ⟨outbox, begun, jobs, hw, hbegun, hjobs⟩ := w.withAlert_frame sub r b.height o
        refine ⟨w.store.putSubscription { sub with tracking := t }, outbox, begun, jobs, ?_, hbegun,
          fun job hjob => Or.inr (hjobs job hjob)⟩
        simp only [if_neg hstale, hw]

end Engine

end Liveness
