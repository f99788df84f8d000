import Liveness.Engine
import Liveness.Proofs.Acts
import Liveness.Proofs.Observe

/-!
# Counting the votes of a block

The update of a validator makes one observation, with the record that the store has then. It puts
off a recheck only of a validator outside jail, and a refetch only of one without a record, and it
leaves all records as they are.
-/

namespace Liveness

open Work

/-! ## Alerts -/

namespace World

variable {κ σ : Type}

/-- The world with a recheck of an operator put off, unless one is not finished yet. -/
def withRecheck (w : World κ σ) (operator : String) (height : Nat) : World κ σ :=
  if w.rechecking.contains operator then w
  else { w with
    rechecking := w.rechecking ++ [operator]
    backlog := w.backlog ++ [.recheck operator height] }

/-- The world after the alert that an observation calls for. -/
def withAlert (w : World κ σ) (sub : Subscription) (r : ValidatorRecord) (height : Nat) :
    Observation → World κ σ
  | .missed counter level true =>
    let sent := sub.subscribers.map (⟨·, (Message.missed r counter height level).text⟩)
    withRecheck { w with outbox := w.outbox ++ sent } sub.operator height
  | _ => w

section Recheck

variable (w : World κ σ) (operator : String) (height : Nat)

@[simp] theorem store_withRecheck : (w.withRecheck operator height).store = w.store := by
  rw [withRecheck]
  split <;> rfl

@[simp] theorem lastHeight_withRecheck :
    (w.withRecheck operator height).lastHeight = w.lastHeight := by
  rw [withRecheck]
  split <;> rfl

@[simp] theorem outbox_withRecheck : (w.withRecheck operator height).outbox = w.outbox := by
  rw [withRecheck]
  split <;> rfl

theorem backlog_withRecheck :
    (w.withRecheck operator height).backlog = w.backlog ∨
      (w.withRecheck operator height).backlog = w.backlog ++ [.recheck operator height] := by
  rw [withRecheck]
  split
  · exact Or.inl rfl
  · exact Or.inr rfl

end Recheck

end World

/-- The effects of the alert that an observation calls for. -/
def Observation.alert {σ : Type} (sub : Subscription) (r : ValidatorRecord) (height : Nat) :
    Observation → List (Effect σ)
  | .missed counter level true => [.sent sub.subscribers (.missed r counter height level)]
  | _ => []

/-- An observation that is not announced calls for no alert. -/
theorem World.withAlert_of_silent {κ σ : Type} (w : World κ σ) (sub : Subscription)
    {r : ValidatorRecord} {height : Nat} {o : Observation} (h : o.shouldNotify = false) :
    w.withAlert sub r height o = w ∧ o.alert (σ := σ) sub r height = [] := by
  rcases o with _ | ⟨counter, level, _ | _⟩ | _ | _
  · exact ⟨rfl, rfl⟩
  · exact ⟨rfl, rfl⟩
  · cases h
  · exact ⟨rfl, rfl⟩
  · exact ⟨rfl, rfl⟩

namespace Engine

variable {κ : Type} {D : Deed → Prop} {J : Job → Prop} {w : World κ Memory} {operator : String}
  (config : TrackerConfig) (b : Block)

@[simp] theorem runIn_recheckLater (operator : String) (height : Nat) (w : World κ Memory) :
    (recheckLater operator height).runIn w = (.ok (), w.withRecheck operator height) := by
  by_cases h : operator ∈ w.rechecking <;> simp [recheckLater, World.withRecheck, h]

@[simp] theorem effects_recheckLater (operator : String) (height : Nat) (w : World κ Memory) :
    (recheckLater operator height).effects w = [] := by
  by_cases h : operator ∈ w.rechecking <;> simp [recheckLater, h]

section Known

variable {sub : Subscription} {r : ValidatorRecord} {t : Tracking} {o : Observation}
  (hs : w.store.subscription? operator = some sub) (hr : w.store.validator? operator = some r)
  (ht : sub.tracking.observe b.height (b.signedBy r.consensus) r.jailed w.window
    config.historyWindow = (t, o))
include hs hr ht

/-- The update of a validator with a subscription and a record. -/
theorem runIn_update :
    (update config b operator).runIn w =
      (.ok o, if o = .stale then w else
        { w.withAlert sub r b.height o with
          store := w.store.putSubscription { sub with tracking := t } }) := by
  obtain rfl := Memory.operator_of_subscription? hs
  rcases o with _ | ⟨counter, level, _ | _⟩ | _ | _ <;>
    simp [update, Registry.subscription?, Store.findSubscription, Store.findValidator, hs, hr, ht,
      Memory.updateTracking_of_some hs, World.withAlert, Except.map]

theorem effects_update :
    (update config b operator).effects w =
      if o = .stale then [] else
        o.alert sub r b.height ++
          [.stored (w.store.putSubscription { sub with tracking := t })] := by
  rcases o with _ | ⟨counter, level, _ | _⟩ | _ | _ <;>
    simp [update, Registry.subscription?, Store.findSubscription, Store.findValidator, hs, hr, ht,
      Memory.updateTracking_of_some hs, Observation.alert]

end Known

/-- The update of one validator makes one observation. It puts off a recheck of a validator outside
jail, and a refetch of one without a record. -/
theorem acts_update (hD : D (.observe operator b.height config.historyWindow))
    (hJ : w.store.jailed? operator = some false → J (.recheck operator b.height))
    (hf : w.store.validator? operator = none → J (.refetch operator)) :
    Keeps (Acts (κ := κ) D J) (update config b operator) w := by
  cases hs : w.store.subscription? operator with
  | none =>
    refine Registry.acts_subscription?_bind fun o ho => ?_
    obtain rfl := hs.symm.trans ho
    exact keeps_pure Acts.composable _
  | some sub =>
    cases hr : w.store.validator? operator with
    | none =>
      refine Registry.acts_subscription?_bind fun o ho => ?_
      obtain rfl := hs.symm.trans ho
      refine acts_fetch_bind (congrArg Except.ok hr) ?_
      exact Keeps.bind Acts.composable (acts_putOff (hf hr)) fun _ _ => keeps_pure Acts.composable _
    | some r =>
      rcases ht : sub.tracking.observe b.height (b.signedBy r.consensus) r.jailed w.window
        config.historyWindow with ⟨t, o⟩
      rw [Keeps, runIn_update config b hs hr ht, effects_update config b hs hr ht]
      by_cases ho : o = .stale
      · rw [if_pos ho, if_pos ho]
        exact Acts.still rfl rfl rfl rfl
      rw [if_neg ho, if_neg ho]
      cases hn : o.shouldNotify with
      | false =>
        obtain ⟨hw, ha⟩ := World.withAlert_of_silent w sub hn
        rw [hw, ha]
        exact Acts.single hD (.observe hs hr ht hn) rfl rfl rfl (by simp [Effect.deliveries])
      | true =>
        obtain ⟨counter, level, rfl⟩ := Observation.exists_of_shouldNotify hn
        obtain rfl := Memory.operator_of_subscription? hs
        have hout : w.store.jailed? sub.operator = some false := by
          rw [Memory.jailed?_of_validator? hr]
          cases hj : r.jailed with
          | false => rfl
          | true =>
            rw [hj] at ht
            exact absurd (Tracking.streak_observe_of_jailed ht).2 (by simp [hn])
        refine ⟨.single hD (.alert hs hr ht), rfl, ?_, ?_, ?_⟩
        · simp [World.withAlert]
        · rcases World.backlog_withRecheck _ sub.operator b.height with h | h
          · exact ⟨[], by simpa [World.withAlert] using h, by simp⟩
          · exact ⟨[.recheck sub.operator b.height], h, by simpa using hJ hout⟩
        · simp [World.withAlert, Observation.alert, Effect.deliveries]

end Engine

/-! ## All votes of a block -/

/-- The deeds of a count of votes. -/
inductive Deed.OfVotes (height limit : Nat) : Deed → Prop where
  | observe (operator : String) : OfVotes height limit (.observe operator height limit)

/-- The work that a count of votes puts off. -/
inductive Job.OfVotes (s : Memory) (height : Nat) : Job → Prop where
  | recheck {operator : String} (hj : s.jailed? operator = some false) :
      OfVotes s height (.recheck operator height)
  | refetch {operator : String} (hr : s.validator? operator = none) :
      OfVotes s height (.refetch operator)

/-- A count of votes leaves all records as they are. -/
theorem Deeds.validator?_of_votes {height limit : Nat} {s : Memory} {es : List (Effect Memory)}
    (h : Deeds (Deed.OfVotes height limit) s es) (operator : String) :
    (Effect.replay s es).validator? operator = s.validator? operator := by
  refine h.preserves (P := fun s' => s'.validator? operator = s.validator? operator) ?_ rfl
  rintro _ s' es ⟨op⟩ hl hs'
  cases hl with
  | observe => exact hs'
  | alert => exact hs'

namespace Engine

variable {κ : Type} (config : TrackerConfig) (b : Block)

theorem acts_updateAll (operators : List String) (w : World κ Memory) :
    Keeps (Acts (Deed.OfVotes b.height config.historyWindow) (Job.OfVotes w.store b.height))
      (updateAll config b operators) w := by
  refine keeps_foldlM Acts.composable
    (fun v => ∀ op, v.store.validator? op = w.store.validator? op) (fun op _ o v hv => ?_)
    fun _ => rfl
  have hj : v.store.jailed? op = w.store.jailed? op := by rw [Memory.jailed?, hv]; rfl
  have h := (acts_update config b (D := Deed.OfVotes b.height config.historyWindow)
    (J := Job.OfVotes w.store b.height) (w := v) (.observe op) (fun h => .recheck (hj.symm.trans h))
    (fun h => .refetch ((hv op).symm.trans h))).attempt.map o.count
  refine ⟨h, fun op' => ?_⟩
  show ((o.count <$> attempt (update config b op)).runIn v).2.store.validator? op' = _
  rw [h.store, h.deeds.validator?_of_votes, hv]

theorem succeeds_updateAll (operators : List String) :
    Succeeds (updateAll (κ := κ) (σ := Memory) config b operators) :=
  succeeds_foldlM (fun (o : Outcome) op => (succeeds_attempt (update config b op)).map o.count) _

end Engine

end Liveness
