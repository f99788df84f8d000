import Liveness.Proofs.Upkeep
import Liveness.Proofs.Votes

/-!
# Which deeds a block does

A block has three phases. What was put off before is done first, then the votes are counted, and at
last the rechecks and refetches that the votes called for are done. Only the last phase sets the
jailed flag of a record and tells those who follow, and only of validators that were outside jail
when the votes were counted.
-/

namespace Liveness

open Work

namespace Acts

variable {κ : Type} {D : Deed → Prop} {w w' : World κ Memory} {es : List (Effect Memory)}

theorem backlog_eq (h : Acts D (fun _ => False) w es w') : w'.backlog = w.backlog := by
  obtain ⟨jobs, hb, hj⟩ := h.backlog
  cases jobs with
  | nil => simpa using hb
  | cons job jobs => exact (hj job (by simp)).elim

end Acts

/-- Work that is put off when a block is taken, before its votes are counted. -/
inductive Job.IsRoutine : Job → Prop where
  | keep (block : BlockRecord) : IsRoutine (.keep block)
  | scan (height : Nat) : IsRoutine (.scan height)
  | refreshWindow : IsRoutine .refreshWindow
  | report (interval height : Nat) : IsRoutine (.report interval height)

namespace Engine

variable {κ : Type} [Chain κ] {D : Deed → Prop} {J : Job → Prop} {w : World κ Memory}
  {operator : String} (config : TrackerConfig) (b : Block)

/-! ## Draining -/

/-- Draining does the deeds of the jobs there are, and nothing is left to do. -/
theorem acts_drain (hκ : Chain.Faithful κ) (hD : ∀ job ∈ w.backlog, ∀ d, job.Does config d → D d) :
    Acts D (fun _ => False) { w with backlog := [] } ((drain config).effects w)
      ((drain config).runIn w).2 :=
  keeps_drain config Acts.composable fun job hjob _ => acts_perform hκ config (hD job hjob)

theorem succeeds_drain {σ : Type} [Store σ] : Succeeds (drain (κ := κ) (σ := σ) config) := by
  refine Succeeds.bind (fun w => ⟨w, rfl⟩) fun w => ?_
  refine Succeeds.bind (fun w => ⟨(), rfl⟩) fun _ => ?_
  exact succeeds_forM fun job => (succeeds_attempt _).map _

end Engine

/-! ## Taking a block -/

/-- The work that a block puts off when it is taken. -/
def World.dueJobs {κ σ : Type} (w : World κ σ) (config : TrackerConfig) (b : Block) : List Job :=
  .keep b.record :: ((if 0 < b.txs then [.scan b.height] else []) ++
    ((if Engine.refreshDue config b.height then [.refreshWindow] else []) ++
      (if (w.reports.crosses b.height).1 then [.report w.reports.interval b.height] else [])))

/-- The world after a block was taken. -/
def World.accept {κ σ : Type} (w : World κ σ) (config : TrackerConfig) (b : Block) : World κ σ :=
  { w with
    lastHeight := b.height
    backlog := w.backlog ++ w.dueJobs config b
    reports := (w.reports.crosses b.height).2 }

theorem World.isRoutine_of_mem_dueJobs {κ σ : Type} {w : World κ σ} {config : TrackerConfig}
    {b : Block} {job : Job} (h : job ∈ w.dueJobs config b) : job.IsRoutine := by
  simp only [dueJobs, List.mem_cons, List.mem_append] at h
  rcases h with rfl | h | h | h
  · exact .keep _
  · split at h <;> simp at h
    exact h ▸ .scan _
  · split at h <;> simp at h
    exact h ▸ .refreshWindow
  · split at h <;> simp at h
    exact h ▸ .report _ _

namespace Engine

variable {κ : Type} (config : TrackerConfig) (b : Block)

/-- Taking a block remembers its height and puts work off. -/
theorem runIn_accept {σ : Type} (w : World κ σ) :
    (accept config b).runIn w = (.ok (), w.accept config b) ∧ (accept config b).effects w = [] := by
  rcases hc : w.reports.crosses b.height with ⟨due, s⟩
  by_cases htxs : 0 < b.txs <;> by_cases href : refreshDue config b.height = true <;> cases due <;>
    simp [accept, World.accept, World.dueJobs, Report.trigger, htxs, href, hc]

/-! ## Blocks -/

variable [Chain κ] {w : World κ Memory}

/-- The operators whose votes are counted. -/
def tracked (s : Memory) : List String :=
  (s.subscriptions.filter (isTracked config)).map (·.operator)

/-- The world in which the votes of a block are counted. -/
def counting (w : World κ Memory) : World κ Memory :=
  ((drain config).runIn (w.accept config b)).2

theorem handleBlock_of_le {σ : Type} [Store σ] {w : World κ σ} (h : b.height ≤ w.lastHeight) :
    (handleBlock config b).runIn w = (.ok .zero, w) ∧ (handleBlock config b).effects w = [] := by
  simp [handleBlock, h]

/-- The world after the votes of a block were counted. -/
def counted (w : World κ Memory) : World κ Memory :=
  ((updateAll config b (tracked config w.store)).runIn (counting config b w)).2

/-- A block that is taken has its votes counted if a validator is tracked. -/
theorem handleBlock_of_lt (h : w.lastHeight < b.height) :
    let votes : Work κ Memory Outcome :=
      if tracked config w.store = [] then pure .zero
      else do
        drain config
        let outcome ← updateAll config b (tracked config w.store)
        drain config
        return outcome
    (handleBlock config b).runIn w = votes.runIn (w.accept config b) ∧
      (handleBlock config b).effects w = votes.effects (w.accept config b) := by
  obtain ⟨hw, he⟩ := runIn_accept config b w
  simp only [← List.isEmpty_iff]
  constructor
  · simp only [handleBlock, runIn_bind, runIn_get, if_neg (Nat.not_le.mpr h), hw, runIn_isolate,
      runIn_fetch]
    rfl
  · simp only [handleBlock, effects_bind, runIn_get, effects_get, if_neg (Nat.not_le.mpr h), hw, he,
      runIn_isolate, runIn_fetch, effects_isolate, effects_fetch, List.nil_append]
    rfl

/-! ## Settling -/

theorem runIn_drain_eq {σ : Type} [Store σ] (w : World κ σ) :
    (drain config).runIn w = (.ok (), ((drain config).runIn w).2) := by
  obtain ⟨a, ha⟩ := succeeds_drain config w
  rw [← ha]

/-- A step is settled by draining what it put off. -/
theorem runIn_settled {σ α : Type} [Store σ] (x : Work κ σ α) (w : World κ σ) :
    ((settled config x).runIn w).2 = ((drain config).runIn (x.runIn w).2).2 ∧
      (settled config x).effects w = x.effects w ++ (drain config).effects (x.runIn w).2 := by
  rw [settled, runIn_bind, effects_bind, runIn_attempt, effects_attempt]
  dsimp only
  rw [runIn_bind, effects_bind, runIn_drain_eq]
  rcases (x.runIn w).1 with e | a
  · exact ⟨rfl, by simp [MonadExcept.ofExcept]⟩
  · exact ⟨rfl, by simp [MonadExcept.ofExcept]⟩

theorem drain_of_nil {σ : Type} [Store σ] {w : World κ σ} (h : w.backlog = []) :
    ((drain config).runIn w).2 = w ∧ (drain config).effects w = [] := by
  have hw : { w with backlog := [] } = w := by rw [← h]
  simp [drain, h, hw]

end Engine

/-! ## The phases of a block -/

/-- The deeds of routine work. -/
def Deed.OfRoutine (config : TrackerConfig) (d : Deed) : Prop :=
  ∃ job : Job, job.IsRoutine ∧ job.Does config d

/-- The deeds of the work that a count of votes puts off. -/
def Deed.OfLate (config : TrackerConfig) (s : Memory) (height : Nat) (d : Deed) : Prop :=
  ∃ job : Job, job.OfVotes s height ∧ job.Does config d

namespace Engine

variable {κ : Type} [Chain κ] (hκ : Chain.Faithful κ) (config : TrackerConfig) (b : Block)
  {w : World κ Memory}

include hκ in
/-- First the routine work is done. -/
theorem acts_counting (hb : w.backlog = []) :
    Acts (Deed.OfRoutine config) (fun _ => False) { w with lastHeight := b.height }
      ((drain config).effects (w.accept config b)) (counting config b w) := by
  have h := acts_drain config hκ (w := w.accept config b) (D := Deed.OfRoutine config) ?_
  · exact ⟨h.deeds, h.store, h.height, ⟨[], h.backlog_eq.trans (by simp [hb]), by simp⟩, h.outbox⟩
  · intro job hjob d hd
    have hdue : job ∈ w.dueJobs config b := by simpa [World.accept, hb] using hjob
    exact ⟨job, World.isRoutine_of_mem_dueJobs hdue, hd⟩

/-- Then the votes are counted. -/
theorem acts_counted (w : World κ Memory) :
    Acts (Deed.OfVotes b.height config.historyWindow)
      (Job.OfVotes (counting config b w).store b.height) (counting config b w)
      ((updateAll config b (tracked config w.store)).effects (counting config b w))
      (counted config b w) :=
  acts_updateAll config b _ _

include hκ in
/-- At last the work is done that the votes called for. -/
theorem acts_late (hb : w.backlog = []) :
    Acts (Deed.OfLate config (counting config b w).store b.height) (fun _ => False)
      { counted config b w with backlog := [] } ((drain config).effects (counted config b w))
      ((drain config).runIn (counted config b w)).2 := by
  refine acts_drain config hκ fun job hjob d hd => ⟨job, ?_, hd⟩
  obtain ⟨jobs, hbl, hj⟩ := (acts_counted config b w).backlog
  rw [hbl, (acts_counting hκ config b hb).backlog_eq] at hjob
  exact hj job (by simpa [hb] using hjob)

/-- A block that is taken goes through its phases, the last two of them if a validator is
tracked. -/
theorem settled_handleBlock (h : w.lastHeight < b.height) :
    ((settled config (handleBlock config b)).runIn w).2 =
        (if tracked config w.store = [] then counting config b w
          else ((drain config).runIn (counted config b w)).2) ∧
      (settled config (handleBlock config b)).effects w =
        (drain config).effects (w.accept config b) ++
          if tracked config w.store = [] then []
          else (updateAll config b (tracked config w.store)).effects (counting config b w) ++
            (drain config).effects (counted config b w) := by
  obtain ⟨hsw, hse⟩ := runIn_settled config (handleBlock config b) w
  obtain ⟨hw, he⟩ := handleBlock_of_lt config b h
  rw [hsw, hse, hw, he]
  by_cases ht : tracked config w.store = []
  · simp only [if_pos ht]
    exact ⟨rfl, by simp⟩
  · simp only [if_neg ht]
    obtain ⟨o, ho⟩ := succeeds_updateAll config b (tracked config w.store) (counting config b w)
    have hu : (updateAll config b (tracked config w.store)).runIn (counting config b w) =
        (.ok o, counted config b w) := by
      rw [← ho]
      rfl
    have hd : (drain config).runIn (w.accept config b) = (.ok (), counting config b w) :=
      runIn_drain_eq config _
    obtain ⟨hnil, hnone⟩ := drain_of_nil config (backlog_drain config (counted config b w))
    have hl := runIn_drain_eq config (counted config b w)
    generalize ((drain config).runIn (counted config b w)).2 = w' at hl hnil hnone ⊢
    simp [hd, hu, hl, hnil, hnone]

/-- A block that is not newer than the latest one does nothing. -/
theorem settled_handleBlock_of_le (hb : w.backlog = []) (h : b.height ≤ w.lastHeight) :
    ((settled config (handleBlock config b)).runIn w).2 = w ∧
      (settled config (handleBlock config b)).effects w = [] := by
  obtain ⟨hsw, hse⟩ := runIn_settled config (handleBlock config b) w
  obtain ⟨hw, he⟩ := handleBlock_of_le config b h
  obtain ⟨hnil, hnone⟩ := drain_of_nil config hb
  rw [hsw, hse, hw, he, hnil, hnone]
  exact ⟨rfl, rfl⟩

end Engine

end Liveness
