import Mathlib.Data.List.Induction
import Mathlib.Tactic.Common
import Liveness.Proofs.Deeds
import Liveness.Proofs.Observe

/-!
# What jail does to a streak

From deed to deed a validator in jail keeps its streak and is not announced, until its record says
that it is out. And whoever is told of a jailing is told right after the write that made it, so that
two such messages have a write between them that ended the first jailing.
-/

namespace Liveness

namespace Effect

/-- The effect is an alert about an operator. -/
def Alerts {σ : Type} (operator : String) (e : Effect σ) : Prop :=
  ∃ targets r counter height level,
    e = .sent targets (.missed r counter height level) ∧ r.operator = operator

/-- The effect is a message of the jailing of an operator. -/
def Announces {σ : Type} (operator : String) (e : Effect σ) : Prop :=
  ∃ targets r height, e = .sent targets (.jailed r height) ∧ r.operator = operator

/-- After the effect the record of an operator is not jailed. -/
def Frees (operator : String) (e : Effect Memory) : Prop :=
  ∃ s, e = .stored s ∧ s.jailed? operator = some false

section Decide

variable {σ : Type} (operator : String)

instance (e : Effect σ) : Decidable (e.Alerts operator) :=
  match e with
  | .sent _ (.missed r _ _ _) => decidable_of_iff (r.operator = operator) (by simp [Alerts])
  | .sent _ (.jailed _ _) | .sent _ (.unjailed _ _) | .sent _ (.report _) | .stored _ =>
    isFalse (by simp [Alerts])

instance (e : Effect σ) : Decidable (e.Announces operator) :=
  match e with
  | .sent _ (.jailed r _) => decidable_of_iff (r.operator = operator) (by simp [Announces])
  | .sent _ (.missed _ _ _ _) | .sent _ (.unjailed _ _) | .sent _ (.report _) | .stored _ =>
    isFalse (by simp [Announces])

instance (e : Effect Memory) : Decidable (e.Frees operator) :=
  match e with
  | .stored s => decidable_of_iff (s.jailed? operator = some false) (by simp [Frees])
  | .sent _ _ => isFalse (by simp [Frees])

end Decide

/-- The effect leaves an operator in jail, with the streak it had. -/
structure Holds (operator : String) (s : Memory) (e : Effect Memory) : Prop where
  silent : ¬ e.Alerts operator
  jailed : (after s e).jailed? operator = some true
  streak : ∀ sub ∈ s.subscription? operator, ∀ sub' ∈ (after s e).subscription? operator,
    sub'.tracking.streak = sub.tracking.streak

variable {operator : String} {s s' : Memory}

theorem not_alerts_stored : ¬ (stored s' : Effect Memory).Alerts operator := by
  rintro ⟨_, _, _, _, _, h, -⟩
  cases h

/-- A write that keeps to the record of an operator in jail, and to its streak. -/
theorem holds_stored (hj : s'.jailed? operator = some true)
    (hs : ∀ sub ∈ s.subscription? operator, ∀ sub' ∈ s'.subscription? operator,
      sub'.tracking.streak = sub.tracking.streak) : Holds operator s (.stored s') :=
  ⟨not_alerts_stored, hj, hs⟩

theorem holds_sent {targets : List String} {message : Message} (hj : s.jailed? operator = some true)
    (hm : ¬ (sent targets message : Effect Memory).Alerts operator) :
    Holds operator s (.sent targets message) :=
  ⟨hm, hj, fun sub hs sub' hs' => by rw [Option.mem_unique hs hs']⟩

theorem streak_eq_of_subscription?_eq {s' : Memory}
    (h : s'.subscription? operator = s.subscription? operator) :
    ∀ sub ∈ s.subscription? operator, ∀ sub' ∈ s'.subscription? operator,
      sub'.tracking.streak = sub.tracking.streak := by
  intro sub hs sub' hs'
  rw [h] at hs'
  rw [Option.mem_unique hs hs']

theorem holds_putSubscription {sub : Subscription} (hj : s.jailed? operator = some true)
    (h : sub.operator = operator → ∀ old ∈ s.subscription? operator,
      sub.tracking.streak = old.tracking.streak) :
    Holds operator s (.stored (s.putSubscription sub)) := by
  refine holds_stored hj fun old hold sub' hs' => ?_
  rw [Memory.subscription?_putSubscription] at hs'
  by_cases ho : sub.operator = operator
  · rw [if_pos ho] at hs'
    obtain rfl := Option.some.inj hs'
    exact h ho old hold
  · rw [if_neg ho] at hs'
    rw [Option.mem_unique hold hs']

end Effect

namespace Deed

open Effect (holds_stored holds_sent holds_putSubscription)

variable {d : Deed} {s : Memory} {before rest : List (Effect Memory)} {operator : String}

/-- While an operator is in jail no deed touches its streak or announces it. -/
theorem Leaves.holds {e : Effect Memory} (h : d.Leaves s (before ++ e :: rest))
    (hj : (Effect.replay s before).jailed? operator = some true) (hf : ¬ e.Frees operator) :
    e.Holds operator (Effect.replay s before) := by
  generalize hes : before ++ e :: rest = es at h
  cases h with
  | idle =>
    obtain ⟨rfl, rfl, -⟩ := append_cons_eq_singleton hes
    exact holds_stored hj (Effect.streak_eq_of_subscription?_eq rfl)
  | keep =>
    obtain ⟨rfl, rfl, -⟩ := append_cons_eq_singleton hes
    exact holds_stored hj (Effect.streak_eq_of_subscription?_eq rfl)
  | @refresh _ _ _ r =>
    obtain ⟨rfl, rfl, -⟩ := append_cons_eq_singleton hes
    refine holds_stored ?_ (Effect.streak_eq_of_subscription?_eq rfl)
    by_contra hn
    refine hf ⟨_, rfl, ?_⟩
    rw [Memory.jailed?_putValidator] at hn ⊢
    by_cases ho : r.operator = operator
    · rw [if_pos ho] at hn ⊢
      simpa using hn
    · rw [if_neg ho] at hn
      exact absurd hj hn
  | jail k hr hj' =>
    rcases append_cons_eq_pair hes with ⟨rfl, rfl, -⟩ | ⟨rfl, rfl, -⟩
    · refine holds_stored ?_ (Effect.streak_eq_of_subscription?_eq rfl)
      rw [Memory.jailed?_putValidator]
      split
      · rfl
      · exact hj
    · exact holds_sent hj (by rintro ⟨_, _, _, _, _, h, -⟩; cases h)
  | enrol hs =>
    obtain ⟨rfl, rfl, -⟩ := append_cons_eq_singleton hes
    refine holds_putSubscription hj fun ho old hold => ?_
    obtain rfl := ho
    exact absurd (hs.symm.trans hold) (by simp)
  | restart hs hj' =>
    obtain ⟨rfl, rfl, -⟩ := append_cons_eq_singleton hes
    refine holds_putSubscription hj fun ho => ?_
    obtain rfl := (Memory.operator_of_subscription? hs).symm.trans ho
    exact absurd (hj'.symm.trans hj) (by simp)
  | follow hs =>
    obtain ⟨rfl, rfl, -⟩ := append_cons_eq_singleton hes
    refine holds_putSubscription hj fun ho old hold => ?_
    obtain rfl := (Memory.operator_of_subscription? hs).symm.trans ho
    rw [Option.mem_unique hs hold]
  | unfollow hs =>
    obtain ⟨rfl, rfl, -⟩ := append_cons_eq_singleton hes
    refine holds_putSubscription hj fun ho old hold => ?_
    obtain rfl := (Memory.operator_of_subscription? hs).symm.trans ho
    rw [Option.mem_unique hs hold]
  | drop =>
    obtain ⟨rfl, rfl, -⟩ := append_cons_eq_singleton hes
    refine holds_stored hj fun old hold sub' hs' => ?_
    rw [Memory.subscription?_deleteSubscription] at hs'
    split at hs'
    · cases hs'
    · rw [Option.mem_unique hold hs']
  | observe hs hr ht ho =>
    obtain ⟨rfl, rfl, -⟩ := append_cons_eq_singleton hes
    refine holds_putSubscription hj fun ho old hold => ?_
    obtain rfl := (Memory.operator_of_subscription? hs).symm.trans ho
    rw [← Option.mem_unique hs hold]
    have hjr := (Memory.jailed?_of_validator? hr).symm.trans hj
    rw [Option.some.inj hjr] at ht
    exact (Tracking.streak_observe_of_jailed ht).1
  | @alert _ op sub r height limit counter level found window t hs hr ht =>
    have hne : op ≠ operator := by
      rintro rfl
      have hj' : s.jailed? op = some true := by
        rcases append_cons_eq_pair hes with ⟨rfl, -⟩ | ⟨rfl, -⟩ <;> exact hj
      have hjr := (Memory.jailed?_of_validator? hr).symm.trans hj'
      rw [Option.some.inj hjr] at ht
      exact absurd (Tracking.streak_observe_of_jailed ht).2 (by simp [Observation.shouldNotify])
    rcases append_cons_eq_pair hes with ⟨rfl, rfl, -⟩ | ⟨rfl, rfl, -⟩
    · refine holds_sent hj ?_
      rintro ⟨_, _, _, _, _, he, ho⟩
      obtain ⟨-, hm⟩ := Effect.sent.inj he
      obtain ⟨rfl, -⟩ := Message.missed.inj hm
      exact hne ((Memory.operator_of_validator? hr).symm.trans ho)
    · refine holds_putSubscription hj fun ho => ?_
      exact absurd ((Memory.operator_of_subscription? hs).symm.trans ho) hne
  | welcome =>
    obtain ⟨rfl, rfl, -⟩ := append_cons_eq_singleton hes
    exact holds_sent hj (by rintro ⟨_, _, _, _, _, he, -⟩; cases he)
  | report =>
    obtain ⟨rfl, rfl, -⟩ := append_cons_eq_singleton hes
    exact holds_sent hj (by rintro ⟨_, _, _, _, _, he, -⟩; cases he)

end Deed

namespace Deeds

variable {D : Deed → Prop} {s : Memory} {es₁ es₂ mid : List (Effect Memory)} {operator : String}

/-! ## Messages of jailings -/

/-- A message of a jailing directly follows the write that puts the flag from false to true, and it
goes to those who follow then. What comes after it are deeds again. -/
theorem jail_of_sent {targets : List String} {r : ValidatorRecord} {height : Nat}
    (h : Deeds D s (es₁ ++ .sent targets (.jailed r height) :: es₂)) :
    D (.jail r.operator) ∧ ∃ es₀ s', es₁ = es₀ ++ [.stored s'] ∧
      (Effect.replay s es₀).jailed? r.operator = some false ∧
      s'.jailed? r.operator = some true ∧
      targets = (Effect.replay s es₀).followers r.operator ∧ Deeds D s' es₂ := by
  obtain ⟨d, pre, before, rest, post, hd, rfl, rfl, hl, hpost⟩ := h.exists_deed rfl
  generalize hes : before ++ Effect.sent targets (.jailed r height) :: rest = es at hl hpost
  cases hl with
  | jail k hr hj =>
    obtain rfl := Memory.operator_of_validator? hr
    rcases append_cons_eq_pair hes with ⟨-, he, -⟩ | ⟨rfl, he, rfl⟩
    · cases he
    · obtain ⟨rfl, hm⟩ := Effect.sent.inj he
      obtain ⟨rfl, rfl⟩ := Message.jailed.inj hm
      refine ⟨hd, pre, _, rfl, ?_, by simp, rfl, hpost⟩
      exact (Memory.jailed?_of_validator? hr).trans (congrArg some hj)
  | alert hs hr ht => rcases append_cons_eq_pair hes with ⟨-, he, -⟩ | ⟨-, he, -⟩ <;> cases he
  | _ => cases (append_cons_eq_singleton hes).2.1

/-! ## In jail -/

/-- The same of an effect anywhere in a row of deeds. -/
theorem holds {e : Effect Memory} (h : Deeds D s (mid ++ e :: es₂))
    (hj : (Effect.replay s mid).jailed? operator = some true) (hf : ¬ e.Frees operator) :
    e.Holds operator (Effect.replay s mid) := by
  obtain ⟨d, pre, before, rest, post, -, rfl, -, hl, -⟩ := h.exists_deed rfl
  rw [Effect.replay_append] at hj ⊢
  exact hl.holds hj hf

/-- An operator in jail stays there, unannounced, as long as no effect frees it. -/
theorem jailed_run (h : Deeds D s (mid ++ es₂)) (hj : s.jailed? operator = some true)
    (hf : ∀ e ∈ mid, ¬ e.Frees operator) :
    (Effect.replay s mid).jailed? operator = some true ∧ ∀ e ∈ mid, ¬ e.Alerts operator := by
  induction mid using List.reverseRecOn generalizing es₂ with
  | nil => exact ⟨hj, by simp⟩
  | append_singleton mid e ih =>
    have h' : Deeds D s (mid ++ e :: es₂) := by simpa using h
    obtain ⟨hj', hs'⟩ := ih h' fun e' he' => hf e' (by simp [he'])
    have hh := h'.holds hj' (hf e (by simp))
    refine ⟨?_, fun e' he' => ?_⟩
    · rw [Effect.replay_append]
      exact hh.jailed
    · rcases List.mem_append.mp he' with he' | he'
      · exact hs' e' he'
      · rw [List.mem_singleton.mp he']
        exact hh.silent

/-- Its streak stays what it was at any place as long as it has a subscription from there on. -/
theorem streak_run {pre : List (Effect Memory)} (h : Deeds D s (pre ++ (mid ++ es₂)))
    (hj : s.jailed? operator = some true) (hf : ∀ e ∈ pre ++ mid, ¬ e.Frees operator)
    (hsub : ∀ p, p <+: mid → (Effect.replay s (pre ++ p)).subscription? operator ≠ none) :
    ∀ sub ∈ (Effect.replay s pre).subscription? operator,
      ∀ sub' ∈ (Effect.replay s (pre ++ mid)).subscription? operator,
        sub'.tracking.streak = sub.tracking.streak := by
  induction mid using List.reverseRecOn generalizing es₂ with
  | nil =>
    rw [List.append_nil]
    exact Effect.streak_eq_of_subscription?_eq rfl
  | append_singleton mid e ih =>
    have h' : Deeds D s (pre ++ (mid ++ e :: es₂)) := by simpa using h
    have hd : Deeds D s ((pre ++ mid) ++ e :: es₂) := by rwa [List.append_assoc]
    have hf' : ∀ e' ∈ pre ++ mid, ¬ e'.Frees operator := by
      intro e' he'
      exact hf e' (by rw [← List.append_assoc]; exact List.mem_append_left _ he')
    have hh := hd.holds (hd.jailed_run hj hf').1 (hf e (by simp))
    intro sub hs sub' hs'
    obtain ⟨old, hold⟩ := Option.ne_none_iff_exists'.mp (hsub mid (List.prefix_append mid [e]))
    have hlast : sub'.tracking.streak = old.tracking.streak := by
      rw [← List.append_assoc, Effect.replay_append s (pre ++ mid)] at hs'
      exact hh.streak old hold sub' hs'
    rw [hlast]
    exact ih h' hf' (fun p hp => hsub p (hp.trans (List.prefix_append mid [e]))) sub hs old hold

/-- An operator that is no longer in jail was freed by an effect while it was. -/
theorem exists_frees (h : Deeds D s (mid ++ es₂)) (hj : s.jailed? operator = some true)
    (hout : (Effect.replay s mid).jailed? operator ≠ some true) :
    ∃ mid₁ e mid₂, mid = mid₁ ++ e :: mid₂ ∧ e.Frees operator ∧
      (Effect.replay s mid₁).jailed? operator = some true := by
  induction mid using List.reverseRecOn generalizing es₂ with
  | nil => exact absurd hj hout
  | append_singleton mid e ih =>
    have h' : Deeds D s (mid ++ e :: es₂) := by simpa using h
    by_cases hj' : (Effect.replay s mid).jailed? operator = some true
    · refine ⟨mid, e, [], rfl, ?_, hj'⟩
      by_contra hf
      refine hout ?_
      rw [Effect.replay_append]
      exact (h'.holds hj' hf).jailed
    · obtain ⟨mid₁, e', mid₂, rfl, hf, hj₁⟩ := ih h' hj'
      exact ⟨mid₁, e', mid₂ ++ [e], by simp, hf, hj₁⟩

/-- Without a refresh of its record nothing frees an operator. -/
theorem not_frees (h : Deeds D s mid) (hD : ∀ accountPrefix, ¬ D (.refresh accountPrefix operator))
    (hj : s.jailed? operator = some true) : ∀ e ∈ mid, ¬ e.Frees operator := by
  induction h with
  | nil s => simp
  | @cons d s es es' hd hl _ ih =>
    have hj' : (Effect.replay s es).jailed? operator = some true := by
      rcases hl.validator_cases operator with h | ⟨accountPrefix, -, rfl, -⟩ | ⟨r, -, -, -, h⟩
      · rwa [Memory.jailed?, h]
      · exact absurd hd (hD accountPrefix)
      · exact Memory.jailed?_of_validator? h
    intro e he
    rcases List.mem_append.mp he with he | he
    · rintro ⟨s', rfl, hout⟩
      rw [hl.eq_of_stored_mem he] at hout
      exact absurd (hout.symm.trans hj') (by simp)
    · exact ih hj' e he

/-! ## Two messages -/

/-- Deeds without a jailing tell of none. -/
theorem not_announces (h : Deeds D s mid) (hD : ¬ D (.jail operator)) :
    ∀ e ∈ mid, ¬ e.Announces operator := by
  rintro _ he ⟨targets, r, height, rfl, rfl⟩
  obtain ⟨es₁, es₂, rfl⟩ := List.append_of_mem he
  exact hD h.jail_of_sent.1

/-- Between two messages of jailings of an operator it was freed. -/
theorem frees_between {e e' : Effect Memory} (h : Deeds D s (es₁ ++ e :: (mid ++ e' :: es₂)))
    (he : e.Announces operator) (he' : e'.Announces operator) :
    ∃ mid₁ f mid₂, mid = mid₁ ++ f :: mid₂ ∧ f.Frees operator ∧
      (Effect.replay s (es₁ ++ e :: mid₁)).jailed? operator = some true := by
  obtain ⟨_, r, _, rfl, rfl⟩ := he
  obtain ⟨_, r', _, rfl, hop⟩ := he'
  obtain ⟨-, es₀, s₁, rfl, -, hin, -, h'⟩ := h.jail_of_sent
  obtain ⟨-, mid₀, s₂, rfl, hout, -, -, -⟩ := h'.jail_of_sent
  rw [hop] at hout
  rw [List.append_assoc] at h'
  obtain ⟨mid₁, f, mid₂, rfl, hf, hj⟩ := h'.exists_frees hin (by simp [hout])
  refine ⟨mid₁, f, mid₂ ++ [.stored s₂], by simp, hf, ?_⟩
  simpa using hj

end Deeds

end Liveness
