import Liveness.Proofs.Jailing

/-!
# Which jailings are told

Two kinds of writes put the flag of a record from false to true. A check puts it and tells those who
follow at once. A refresh writes the whole record as the chain has it, and tells nobody. So within a
block a jailing is told if and only if no refresh was faster than the check.
-/

namespace Liveness

open Work

/-- The effect tells a target of the jailing of an operator. -/
def Effect.Tells {σ : Type} (operator target : String) (e : Effect σ) : Prop :=
  ∃ targets r height, e = .sent targets (.jailed r height) ∧ r.operator = operator ∧
    target ∈ targets

theorem Effect.Tells.announces {σ : Type} {operator target : String} {e : Effect σ}
    (h : e.Tells operator target) : e.Announces operator := by
  obtain ⟨targets, r, height, he, ho, -⟩ := h
  exact ⟨targets, r, height, he, ho⟩

instance {σ : Type} (operator target : String) (e : Effect σ) :
    Decidable (e.Tells operator target) :=
  match e with
  | .sent targets (.jailed r _) =>
    decidable_of_iff (r.operator = operator ∧ target ∈ targets) (by simp [Effect.Tells])
  | .sent _ (.missed _ _ _ _) | .sent _ (.unjailed _ _) | .sent _ (.report _) | .stored _ =>
    isFalse (by simp [Effect.Tells])

/-! ## Who follows -/

/-- The deed changes who follows an operator. -/
inductive Deed.Enlists (operator : String) : Deed → Prop where
  | follow (target : String) : Enlists operator (.follow operator target)
  | unfollow (target : String) : Enlists operator (.unfollow operator target)
  | drop (target : String) : Enlists operator (.drop operator target)

namespace Deeds

variable {D : Deed → Prop} {s s' : Memory} {es es' es₁ es₂ : List (Effect Memory)}
  {operator : String}

/-- Those who follow an operator stay the same at any place among deeds that do not change them. -/
theorem followers_kept (h : Deeds D s es) (hD : ∀ d, D d → ¬ d.Enlists operator)
    (hp : es' <+: es) : (Effect.replay s es').followers operator = s.followers operator := by
  refine h.preserves_prefix (P := fun v => v.followers operator = s.followers operator)
    (fun d v es hd hl hv => ?_) hp rfl
  rw [← hv]
  have hkeep := hD d hd
  rcases hl.subscription_cases operator with h | ⟨-, hn, h⟩ | ⟨target, rfl, -⟩ |
    ⟨sub, sub', hsub, h, hnew⟩
  · rw [Memory.followers, h, Memory.followers]
  · rw [Memory.followers_of_subscription? h, Memory.followers, hn]
    rfl
  · exact absurd (.drop target) hkeep
  · rw [Memory.followers_of_subscription? h, Memory.followers_of_subscription? hsub]
    rcases hnew with ⟨-, rfl⟩ | ⟨target, _, rfl | rfl, -⟩ | ⟨_, _, _, _, _, -, rfl⟩
    · rfl
    · exact absurd (.follow target) hkeep
    · exact absurd (.unfollow target) hkeep
    · rfl

/-! ## Writes that put the flag -/

/-- A write that puts the flag from false to true is a refresh, or those who follow are told right
after it. -/
theorem flip_cases (h : Deeds D s (es₁ ++ .stored s' :: es₂))
    (hout : (Effect.replay s es₁).jailed? operator = some false)
    (hin : s'.jailed? operator = some true) :
    (∃ accountPrefix, D (.refresh accountPrefix operator)) ∨
      D (.jail operator) ∧ ∃ r height, r.operator = operator ∧
        .sent (s'.followers operator) (.jailed r height) ∈ es₂ := by
  obtain ⟨d, pre, before, rest, post, hd, rfl, rfl, hl, -⟩ := h.exists_deed rfl
  have hafter := hl.eq_of_stored_mem (List.mem_append_right before (List.mem_cons_self ..))
  -- the deed has one write, and the flag shows that it was still to come
  have hbefore : Effect.replay (Effect.replay s pre) before = Effect.replay s pre := by
    refine (hl.replay_prefix (List.prefix_append _ _)).resolve_right fun hsame => ?_
    rw [← hafter] at hsame
    rw [Effect.replay_append, hsame, hin] at hout
    simp at hout
  rw [Effect.replay_append, hbefore] at hout
  rw [hafter] at hin
  rcases hl.validator_cases operator with hsame | ⟨accountPrefix, -, rfl, -⟩ | ⟨r, rfl, hr, hj, -⟩
  · rw [Memory.jailed?, hsame, ← Memory.jailed?, hout] at hin
    simp at hin
  · exact Or.inl ⟨accountPrefix, hd⟩
  · refine Or.inr ⟨hd, ?_⟩
    generalize hes : before ++ Effect.stored s' :: rest = l at hl
    cases hl with
    | @jail _ _ r height hr =>
      obtain rfl := Memory.operator_of_validator? hr
      rcases append_cons_eq_pair hes with ⟨-, he, rfl⟩ | ⟨-, he, -⟩
      · obtain rfl := Effect.stored.inj he
        exact ⟨{ r with jailed := true }, height, rfl, by simp⟩
      · cases he

/-- Without a refresh of its record an operator that went to jail was announced. -/
theorem exists_announces (h : Deeds D s es)
    (hD : ∀ accountPrefix, ¬ D (.refresh accountPrefix operator))
    (hout : s.jailed? operator = some false)
    (hin : (Effect.replay s es).jailed? operator = some true) : ∃ e ∈ es, e.Announces operator := by
  induction h with
  | nil s => simp [hout] at hin
  | @cons d s es es' hd hl _ ih =>
    rw [Effect.replay_append] at hin
    rcases hl.validator_cases operator with h | ⟨accountPrefix, -, rfl, -⟩ | ⟨r, rfl, -⟩
    · obtain ⟨e, he, ha⟩ := ih (by rwa [Memory.jailed?, h]) hin
      exact ⟨e, List.mem_append_right es he, ha⟩
    · exact absurd hd (hD accountPrefix)
    · cases hl with
      | @jail _ _ r height hr =>
        obtain rfl := Memory.operator_of_validator? hr
        exact ⟨.sent (s.followers r.operator) (.jailed { r with jailed := true } height), by simp,
          _, _, _, rfl, rfl⟩

end Deeds

/-! ## Blocks -/

theorem Job.Does.not_enlists {config : TrackerConfig} {job : Job} {d : Deed} {operator : String}
    (h : job.Does config d) : ¬ d.Enlists operator := by
  rintro (_ | _ | _)
  · cases h with
    | scan _ hd => cases hd
  · cases h with
    | scan _ hd => cases hd
  · cases h with
    | scan _ hd => cases hd

namespace Action

variable {κ : Type} [Chain κ] (hκ : Chain.Faithful κ) (config : TrackerConfig)
  {w : World κ Memory} {operator : String} {b : Block}
include hκ

/-- A block does not change who follows. -/
theorem deeds_block (b : Block) (hw : w.Settled) :
    Deeds (fun d => ∀ operator, ¬ d.Enlists operator) w.store
      (((block b).step config).effects w) := by
  have hc : Deeds (fun d => ∀ operator, ¬ d.Enlists operator) w.store
      ((Engine.drain config).effects (w.accept config b)) :=
    (Engine.acts_counting hκ config b hw.backlog).deeds.mono fun d ⟨_, _, hd⟩ op => hd.not_enlists
  rcases block_cases config b hw.backlog with ⟨-, -, heff⟩ | ⟨-, ⟨-, -, heff⟩ | ⟨-, -, heff⟩⟩
  · rw [heff]
    exact .nil _
  · rw [heff]
    exact hc
  · have hv := Engine.acts_counted config b w
    have hl := Engine.acts_late hκ config b hw.backlog
    rw [heff]
    refine hc.append ?_
    rw [← (Engine.acts_counting hκ config b hw.backlog).store]
    refine (hv.deeds.mono ?_).append ?_
    · rintro _ ⟨_⟩ op h
      cases h
    · rw [← hv.store]
      exact hl.deeds.mono fun d ⟨_, _, hd⟩ op => hd.not_enlists

/-- Whom a block tells of a jailing are those who follow all through it. -/
theorem tells_of_announces {e : Effect Memory} {target : String} (hw : w.Settled)
    (hmem : e ∈ ((block b).step config).effects w) (he : e.Announces operator)
    (ht : target ∈ w.store.followers operator) : e.Tells operator target := by
  have h := deeds_block hκ config b hw
  obtain ⟨es₁, es₂, hes⟩ := List.append_of_mem hmem
  rw [hes] at h
  obtain ⟨targets, r, height, rfl, rfl⟩ := he
  obtain ⟨-, es₀, s, rfl, -, -, rfl, -⟩ := h.jail_of_sent
  refine ⟨_, r, height, rfl, rfl, ?_⟩
  rw [h.followers_kept (fun d hd => hd r.operator) ⟨_, (List.append_assoc _ _ _).symm⟩]
  exact ht

/-- A validator that is outside jail when the votes are counted, and in jail after the block, is
announced. -/
theorem announces_of_block (hw : w.Settled) (hes : ((block b).step config).effects w ≠ [])
    (hout : (Engine.counting config b w).store.jailed? operator = some false)
    (hin : (((block b).step config).runIn w).2.store.jailed? operator = some true) :
    ∃ e ∈ ((block b).step config).effects w, e.Announces operator := by
  rcases block_cases config b hw.backlog with ⟨-, -, heff⟩ | ⟨-, ⟨-, hrun, -⟩ | ⟨-, hrun, heff⟩⟩
  · exact absurd heff hes
  · rw [hrun, hout] at hin
    cases hin
  · have hv := Engine.acts_counted config b w
    have hl := Engine.acts_late hκ config b hw.backlog
    have hsame := hv.deeds.validator?_of_votes operator
    rw [← hv.store] at hsame
    have hout' : (Engine.counted config b w).store.jailed? operator = some false := by
      rwa [Memory.jailed?, hsame]
    rw [hrun, hl.store] at hin
    obtain ⟨e, he, ha⟩ := hl.deeds.exists_announces
      (Deed.OfLate.not_refresh (Memory.validator?_ne_none hout)) hout' hin
    rw [heff]
    exact ⟨e, List.mem_append_right _ (List.mem_append_right _ he), ha⟩

section Writes

variable {a : Action κ} {s' : Memory} {es₁ es₂ : List (Effect Memory)} (hw : w.Settled)
  (hf : s'.followers operator ≠ [])
include hw hf

/-- What a block tells of a write that puts the flag from false to true. -/
theorem told_block_iff
    (hes : ((block b).step config).effects w = es₁ ++ .stored s' :: es₂) :
    (∀ target ∈ s'.followers operator,
        ∃ e ∈ ((block b).step config).effects w, e.Tells operator target) ↔
      (Engine.counting config b w).store.jailed? operator = some false ∧
        (((block b).step config).runIn w).2.store.jailed? operator = some true := by
  constructor
  · intro h
    obtain ⟨target, ht⟩ := List.exists_mem_of_ne_nil _ hf
    obtain ⟨e, hmem, he⟩ := h target ht
    obtain ⟨es₁, es₂, hes⟩ := List.append_of_mem hmem
    exact ⟨(block_of_announces hκ config hw hes he.announces).1,
      jailed?_of_announces hκ config hw hmem he.announces⟩
  · rintro ⟨hout, hin⟩ target ht
    obtain ⟨e, hmem, he⟩ := announces_of_block hκ config hw (by simp [hes]) hout hin
    have hp : es₁ ++ [.stored s'] <+: ((block b).step config).effects w := ⟨es₂, by simp [hes]⟩
    have hkeep := (deeds_block hκ config b hw).followers_kept (fun d hd => hd operator) hp
    rw [Effect.replay_append] at hkeep
    exact ⟨e, hmem, tells_of_announces hκ config hw hmem he (hkeep ▸ ht)⟩

/-- What any other action tells of such a write. -/
theorem told_iff_of_not_block (ha : ∀ b, a ≠ .block b)
    (hes : (a.step config).effects w = es₁ ++ .stored s' :: es₂)
    (hout : (Effect.replay w.store es₁).jailed? operator = some false)
    (hin : s'.jailed? operator = some true) :
    (∀ target ∈ s'.followers operator,
        ∃ e ∈ (a.step config).effects w, e.Tells operator target) ↔
      ∃ height, a = .checkJailed operator height := by
  have h := (acts_step hκ config ha hw.backlog).deeds
  constructor
  · intro htold
    obtain ⟨target, ht⟩ := List.exists_mem_of_ne_nil _ hf
    obtain ⟨e, hmem, he⟩ := htold target ht
    by_cases hd : a.Does config (.jail operator)
    · cases hd with
      | jail op height => exact ⟨height, rfl⟩
      | scan height hd => cases hd
    · exact absurd he.announces (h.not_announces hd e hmem)
  · rintro ⟨height, rfl⟩ target ht
    rw [hes] at h ⊢
    rcases h.flip_cases hout hin with ⟨accountPrefix, hd⟩ | ⟨-, r, height, ho, hmem⟩
    · cases hd
    · exact ⟨_, List.mem_append_right es₁ (List.mem_cons_of_mem _ hmem), _, r, height, rfl, ho, ht⟩

end Writes

end Action

/-! ## Runs -/

/-- The same chain in jail, with a transaction of block 9 that edits the description. -/
def Alpha.edited : Scripted :=
  (Alpha.chain true).setTransactions 9 [⟨"", true,
    [⟨0, [⟨"message", [⟨"action", "edit_validator"⟩, ⟨"sender", Alpha.operator⟩]⟩]⟩]⟩]

namespace Engine

variable {κ : Type} [Chain κ]

/-- Whenever a write of a step puts the flag of an operator that is followed from false to true,
those who follow are told of it in that step if and only if the step is a check of this operator,
or a block that finds it outside jail when it counts the votes and leaves it in jail. Any other such
write is a refresh, and it is silent. -/
theorem jailing_told_iff (hκ : Chain.Faithful κ) (config : TrackerConfig) (chain : κ)
    (before : List (Action κ)) (a : Action κ) {operator : String} {s' : Memory}
    {es₁ es₂ : List (Effect Memory)}
    (hes : (a.step config).effects (reached config chain before) = es₁ ++ .stored s' :: es₂)
    (hout : (Effect.replay (reached config chain before).store es₁).jailed? operator = some false)
    (hin : s'.jailed? operator = some true) (hf : s'.followers operator ≠ []) :
    (∀ target ∈ s'.followers operator,
        ∃ e ∈ (a.step config).effects (reached config chain before), e.Tells operator target) ↔
      (∃ height, a = .checkJailed operator height) ∨
      ∃ b, a = .block b ∧
        (counting config b (reached config chain before)).store.jailed? operator = some false ∧
        (reached config chain (before ++ [a])).store.jailed? operator = some true := by
  have hw := (shows_reached config chain hκ before).2
  rw [(reached_step config chain before a).1]
  by_cases ha : ∃ b, a = .block b
  · obtain ⟨b, rfl⟩ := ha
    rw [Action.told_block_iff hκ config hw hf hes]
    simp
  · rw [Action.told_iff_of_not_block hκ config hw hf (fun b hb => ha ⟨b, hb⟩) hes hout hin]
    refine (or_iff_left ?_).symm
    rintro ⟨b, hb, -⟩
    exact ha ⟨b, hb⟩

/-- The write of a check, and the message that follows it. -/
theorem jailing_told_iff_of_check :
    let a : Action Scripted := .checkJailed Alpha.operator 7
    let w := reached .standard Scripted.empty Alpha.followed
    let s' := (reached .standard Scripted.empty (Alpha.followed ++ [a])).store
    let es := (a.step .standard).effects w
    es = [] ++ .stored s' :: es.drop 1 ∧ w.store.jailed? Alpha.operator = some false ∧
      s'.jailed? Alpha.operator = some true ∧ s'.followers Alpha.operator ≠ [] ∧
      ∀ target ∈ s'.followers Alpha.operator, ∃ e ∈ es, e.Tells Alpha.operator target := by
  intro a w s' es
  obtain ⟨hes, hout, hin, hf⟩ : es = [] ++ .stored s' :: es.drop 1 ∧
      w.store.jailed? Alpha.operator = some false ∧ s'.jailed? Alpha.operator = some true ∧
      s'.followers Alpha.operator ≠ [] := by
    decide +kernel
  refine ⟨hes, hout, hin, hf, ?_⟩
  exact (jailing_told_iff Scripted.faithful .standard _ Alpha.followed a hes hout hin hf).mpr
    (Or.inl ⟨7, rfl⟩)

/-- A validator that edits its description in jail is marked by the scan of the block, and nobody is
told. -/
theorem jailing_untold_of_edit :
    let before : List (Action Scripted) := Alpha.followed ++ [.turn Alpha.edited]
    let w := reached .standard Scripted.empty before
    let es := ((Action.block ⟨9, "", 1, []⟩).step .standard).effects w
    let s' := Effect.replay w.store (es.take 2)
    es = es.take 1 ++ .stored s' :: es.drop 2 ∧
      (Effect.replay w.store (es.take 1)).jailed? Alpha.operator = some false ∧
      s'.jailed? Alpha.operator = some true ∧ s'.followers Alpha.operator = ["chat-1"] ∧
      ∀ e ∈ es, ¬ e.Tells Alpha.operator "chat-1" := by
  decide +kernel

end Engine

end Liveness
