import Liveness.Proofs.Runs

/-!
# Histories over blocks

A block that is taken adds one entry to the history of every tracked validator with a record: its
height, and whether the vote of the validator is in the block. The scan before the count and the
rechecks after it leave the history alone, and so do the updates of other validators.
-/

namespace Liveness

open Work

/-! ## What deeds leave alone -/

namespace Deeds

variable {D : Deed → Prop} {s : Memory} {es : List (Effect Memory)} {operator : String}

/-- Only an observation or a drop changes a history. -/
theorem history_kept (h : Deeds D s es) (ho : ∀ height limit, ¬ D (.observe operator height limit))
    (hd : ∀ target, ¬ D (.drop operator target)) {sub : Subscription}
    (hs : s.subscription? operator = some sub) :
    ∃ sub', (Effect.replay s es).subscription? operator = some sub' ∧
      sub'.tracking.history = sub.tracking.history := by
  refine h.preserves (P := fun s => ∃ sub', s.subscription? operator = some sub' ∧
    sub'.tracking.history = sub.tracking.history) ?_ ⟨sub, hs, rfl⟩
  rintro d s es hD hl ⟨old, hold, hh⟩
  rcases hl.subscription_cases operator with h | ⟨-, hn, -⟩ | ⟨target, rfl, -⟩ |
    ⟨sub', new, hsub', h, hnew⟩
  · exact ⟨old, h.trans hold, hh⟩
  · exact absurd (hn.symm.trans hold) (by simp)
  · exact absurd hD (hd target)
  · obtain rfl := Option.some.inj (hsub'.symm.trans hold)
    rcases hnew with ⟨-, rfl⟩ | ⟨_, _, -, rfl⟩ | ⟨height, limit, _, _, _, rfl, -⟩
    · exact ⟨_, h, hh⟩
    · exact ⟨_, h, hh⟩
    · exact absurd hD (ho height limit)

/-- A record stays, and only a refresh changes its consensus address. -/
theorem consensus_kept (h : Deeds D s es)
    (hD : ∀ accountPrefix, ¬ D (.refresh accountPrefix operator)) {r : ValidatorRecord}
    (hr : s.validator? operator = some r) :
    ∃ r', (Effect.replay s es).validator? operator = some r' ∧ r'.consensus = r.consensus := by
  refine h.preserves (P := fun s => ∃ r', s.validator? operator = some r' ∧
    r'.consensus = r.consensus) ?_ ⟨r, hr, rfl⟩
  rintro d s es hd hl ⟨r', hr', hc⟩
  rcases hl.validator_cases operator with h | ⟨accountPrefix, -, rfl, -⟩ | ⟨r₁, -, hr₁, -, h⟩
  · exact ⟨r', h.trans hr', hc⟩
  · exact absurd hd (hD accountPrefix)
  · obtain rfl := Option.some.inj (hr₁.symm.trans hr')
    exact ⟨_, h, hc⟩

/-- No record is ever removed. -/
theorem validator_kept (h : Deeds D s es) (hr : s.validator? operator ≠ none) :
    (Effect.replay s es).validator? operator ≠ none := by
  refine h.preserves (P := fun s => s.validator? operator ≠ none) (fun d s es _ hl hs => ?_) hr
  rcases hl.validator_cases operator with h | ⟨_, _, -, h⟩ | ⟨_, -, -, -, h⟩
  · rwa [h]
  · simp [h]
  · simp [h]

end Deeds

/-! ## Votes -/

namespace Engine

variable {κ : Type} {config : TrackerConfig} {b : Block} {w : World κ Memory} {operator : String}

/-- The update of a validator leaves all records alone. -/
theorem validator?_update (other : String) :
    ((update config b other).runIn w).2.store.validator? operator =
      w.store.validator? operator := by
  have hu : Acts (Deed.OfVotes b.height config.historyWindow) (fun _ => True) w
      ((update config b other).effects w) ((update config b other).runIn w).2 :=
    acts_update config b (.observe other) (fun _ => trivial) fun _ => trivial
  rw [hu.store, hu.deeds.validator?_of_votes]

/-- The update of another validator leaves a subscription alone. -/
theorem subscription?_update_of_ne {other : String} (h : other ≠ operator) :
    ((update config b other).runIn w).2.store.subscription? operator =
      w.store.subscription? operator := by
  have hu : Acts (fun d => d = .observe other b.height config.historyWindow) (fun _ => True) w
      ((update config b other).effects w) ((update config b other).runIn w).2 :=
    acts_update config b rfl (fun _ => trivial) fun _ => trivial
  rw [hu.store]
  refine hu.deeds.preserves
    (P := fun s => s.subscription? operator = w.store.subscription? operator) ?_ rfl
  rintro _ s es rfl hl hs
  rcases hl.subscription_cases operator with hsame | ⟨hd, -⟩ | ⟨_, hd, -⟩ | ⟨_, _, -, -, hnew⟩
  · exact hsame.trans hs
  · cases hd
  · cases hd
  · rcases hnew with ⟨hd, -⟩ | ⟨_, _, hd | hd, -⟩ | ⟨_, _, _, _, _, hd, -⟩
    · cases hd
    · cases hd
    · cases hd
    · exact absurd (Deed.observe.inj hd).1 h

/-- The subscription of an operator has this history. -/
def HasHistory (w : World κ Memory) (operator : String) (h : History) : Prop :=
  ∃ sub, w.store.subscription? operator = some sub ∧ sub.tracking.history = h

/-- The history with one more entry. -/
def grown (config : TrackerConfig) (h : History) (e : Attendance) : History :=
  ⟨History.keepLast config.historyWindow (h.entries ++ [e])⟩

/-- The update of a validator with a record adds the block to its history if that accepts it. -/
theorem history_update {h : History} {r : ValidatorRecord} (hh : HasHistory w operator h)
    (hr : w.store.validator? operator = some r) :
    HasHistory ((update config b operator).runIn w).2 operator
      (if h.accepts ⟨b.height, b.signedBy r.consensus⟩ then
        grown config h ⟨b.height, b.signedBy r.consensus⟩ else h) := by
  obtain ⟨sub, hs, rfl⟩ := hh
  rcases ht : sub.tracking.observe b.height (b.signedBy r.consensus) r.jailed w.window
    config.historyWindow with ⟨t, o⟩
  have hh : t.history = (sub.tracking.observe b.height (b.signedBy r.consensus) r.jailed w.window
      config.historyWindow).1.history := by rw [ht]
  rw [Tracking.history_observe] at hh
  rw [runIn_update config b hs hr ht]
  by_cases ho : o = .stale
  · have hstale : (sub.tracking.observe b.height (b.signedBy r.consensus) r.jailed w.window
        config.historyWindow).2 = .stale := by rw [ht, ho]
    refine ⟨sub, by simpa [ho] using hs, ?_⟩
    rw [if_neg (by simpa using Tracking.observeBy_eq_stale_iff.mp hstale)]
  · refine ⟨{ sub with tracking := t }, ?_, hh⟩
    simp [ho, Memory.operator_of_subscription? hs]

theorem history_update_of_ne {h : History} {other : String} (hne : other ≠ operator)
    (hh : HasHistory w operator h) :
    HasHistory ((update config b other).runIn w).2 operator h := by
  obtain ⟨sub, hs, rfl⟩ := hh
  exact ⟨sub, (subscription?_update_of_ne hne).trans hs, rfl⟩

/-- The world after the updates of several validators. -/
theorem world_updateAll (operators : List String) (w : World κ Memory) :
    ((updateAll config b operators).runIn w).2 =
      operators.foldl (fun w operator => ((update config b operator).runIn w).2) w := by
  rw [updateAll]
  generalize Outcome.zero = o
  induction operators generalizing o w with
  | nil => rfl
  | cons op operators ih =>
    simp only [List.foldlM_cons, List.foldl_cons, runIn_bind, runIn_attempt, runIn_pure]
    exact ih _ _

/-- The updates of several validators add the block once to the history of each that has a
record. -/
theorem history_updateAll {h : History} {r : ValidatorRecord} {operators : List String}
    (hmem : operator ∈ operators) (hh : HasHistory w operator h)
    (hr : w.store.validator? operator = some r)
    (ha : h.accepts ⟨b.height, b.signedBy r.consensus⟩ = true) :
    HasHistory ((updateAll config b operators).runIn w).2 operator
      (grown config h ⟨b.height, b.signedBy r.consensus⟩) := by
  have hg : ∀ (operators : List String) (w : World κ Memory),
      w.store.validator? operator = some r →
      HasHistory w operator (grown config h ⟨b.height, b.signedBy r.consensus⟩) →
      HasHistory (operators.foldl (fun w operator => ((update config b operator).runIn w).2) w)
        operator (grown config h ⟨b.height, b.signedBy r.consensus⟩) := by
    intro operators
    induction operators with
    | nil => exact fun w _ hh => hh
    | cons op operators ih =>
      intro w hr hh
      refine ih _ ((validator?_update op).trans hr) ?_
      by_cases hop : op = operator
      · have hu : HasHistory ((update config b operator).runIn w).2 operator _ :=
          history_update hh hr
        have hp : h.push? ⟨b.height, b.signedBy r.consensus⟩ config.historyWindow =
            some (grown config h ⟨b.height, b.signedBy r.consensus⟩) :=
          History.push?_eq_some_iff.mpr ⟨ha, rfl⟩
        rw [hop]
        exact History.push_again hp ▸ hu
      · exact history_update_of_ne hop hh
  rw [world_updateAll]
  induction operators generalizing w with
  | nil => cases hmem
  | cons op operators ih =>
    have hr' : ((update config b op).runIn w).2.store.validator? operator = some r :=
      (validator?_update op).trans hr
    by_cases hop : op = operator
    · subst hop
      refine hg operators _ hr' ?_
      have hu : HasHistory ((update config b op).runIn w).2 op _ := history_update hh hr
      rwa [if_pos ha] at hu
    · refine ih ?_ (history_update_of_ne hop hh) hr'
      exact (List.mem_cons.mp hmem).resolve_left (Ne.symm hop)

end Engine

/-! ## Blocks -/

section Late

variable {config : TrackerConfig} {s s' : Memory} {height : Nat} {es : List (Effect Memory)}
  {operator : String}

theorem Job.Does.not_drop {job : Job} {target : String} :
    ¬ job.Does config (.drop operator target) := by
  intro h
  cases h with
  | scan _ hd => cases hd

/-- The work that the votes call for leaves subscriptions alone. -/
theorem Deeds.subscription?_of_late (h : Deeds (Deed.OfLate config s height) s' es)
    (operator : String) :
    (Effect.replay s' es).subscription? operator = s'.subscription? operator := by
  refine h.preserves (P := fun v => v.subscription? operator = s'.subscription? operator) ?_ rfl
  rintro d v es ⟨job, hj, hd⟩ hl hv
  cases hj with
  | recheck => cases hd <;> cases hl <;> exact hv
  | refetch => cases hd; cases hl; exact hv

/-- It writes no record anew that was there when the votes were counted. -/
theorem Deed.OfLate.not_refresh (hr : s.validator? operator ≠ none) (accountPrefix : String) :
    ¬ Deed.OfLate config s height (.refresh accountPrefix operator) := by
  rintro ⟨job, hj, hd⟩
  cases hj with
  | recheck => cases hd
  | refetch hn =>
    cases hd
    exact hr hn

end Late

namespace Engine

variable {κ : Type} [Chain κ] {config : TrackerConfig} {b : Block} {w : World κ Memory}
  {operator : String}

/-- A block that is taken adds one entry to the history of a tracked validator with a record. -/
theorem history_block (hκ : Chain.Faithful κ) (hw : w.Settled) (hlt : w.lastHeight < b.height)
    {sub : Subscription} (hs : w.store.subscription? operator = some sub)
    (ht : isTracked config sub = true) (hr : w.store.validator? operator ≠ none) :
    ∃ sub' r, (((Action.block b).step config).runIn w).2.store.subscription? operator = some sub' ∧
      (((Action.block b).step config).runIn w).2.store.validator? operator = some r ∧
      sub'.tracking.history =
        grown config sub.tracking.history ⟨b.height, b.signedBy r.consensus⟩ := by
  have htracked : operator ∈ tracked config w.store := by
    refine List.mem_map.mpr ⟨sub, List.mem_filter.mpr ⟨Memory.mem_of_subscription? hs, ht⟩, ?_⟩
    exact Memory.operator_of_subscription? hs
  obtain ⟨hle, -⟩ | ⟨-, ⟨hnone, -⟩ | ⟨-, hrun, -⟩⟩ := Action.block_cases config b hw.backlog
  · exact absurd hlt (Nat.not_lt.mpr hle)
  · exact absurd hnone (List.ne_nil_of_mem htracked)
  rw [hrun]
  -- the routine work
  have hc := acts_counting hκ config b hw.backlog
  obtain ⟨sub₁, hs₁, hh₁⟩ := hc.deeds.history_kept
    (fun _ _ ⟨_, _, hd⟩ => Job.Does.not_observe hd) (fun _ ⟨_, _, hd⟩ => Job.Does.not_drop hd) hs
  have hr₁ := hc.deeds.validator_kept hr
  rw [← hc.store] at hs₁ hr₁
  obtain ⟨r₁, hr₁⟩ := Option.ne_none_iff_exists'.mp hr₁
  -- the votes
  have hv := acts_counted config b w
  have ha : sub₁.tracking.history.accepts ⟨b.height, b.signedBy r₁.consensus⟩ = true := by
    rw [hh₁]
    refine History.accepts_iff.mpr fun e he => ?_
    exact Nat.lt_of_le_of_lt (hw.below operator sub hs e he) hlt
  obtain ⟨sub₂, hs₂, hh₂⟩ := history_updateAll htracked ⟨sub₁, hs₁, rfl⟩ hr₁ ha
  have hr₂ := hv.deeds.validator?_of_votes operator
  rw [← hv.store, hr₁] at hr₂
  -- the work that they called for
  have hl := acts_late hκ config b hw.backlog
  have hs₃ := hl.deeds.subscription?_of_late operator
  obtain ⟨r₃, hr₃, hc₃⟩ := hl.deeds.consensus_kept (Deed.OfLate.not_refresh (by simp [hr₁])) hr₂
  rw [← hl.store] at hs₃ hr₃
  refine ⟨sub₂, r₃, hs₃.trans hs₂, hr₃, ?_⟩
  rw [hh₂, hh₁, hc₃]

end Engine

end Liveness
