import Liveness.Proofs.Update

/-!
# Operations on an engine

An engine is used by others and does things by itself, and whatever is done, the chain may answer
anything. Between two operations nothing is left to do and no recheck is under way. A property of
the store that single writes keep is kept by every operation, and so by every run.
-/

namespace Liveness

open Work

/-! ## Rechecks that end -/

namespace Engine

variable {κ : Type} [Chain κ] (config : TrackerConfig) {w : World κ Memory}

theorem rechecking_perform_recheck (operator : String) (height : Nat) :
    operator ∉ ((perform config (.recheck operator height)).runIn w).2.rechecking := by
  rw [(perform_recheck config operator height w).1]
  simp

theorem rechecking_performAll {jobs : List Job}
    (h : ∀ operator ∈ w.rechecking, ∃ height, Job.recheck operator height ∈ jobs) :
    ((performAll config jobs).runIn w).2.rechecking = [] := by
  induction jobs generalizing w with
  | nil =>
    refine List.eq_nil_iff_forall_not_mem.mpr fun operator hop => ?_
    obtain ⟨height, hmem⟩ := h operator hop
    cases hmem
  | cons job jobs ih =>
    rw [(performAll_cons config job jobs w).1]
    -- the recheck of the first job ends with it, so all others are among the rest
    refine ih fun operator hop => ?_
    have hkept : Keeps (Maintains fun _ => True) (perform config job) w :=
      maintains_perform config (fun _ _ _ _ => trivial) job
    obtain ⟨height, hmem⟩ := h operator (hkept.rechecking operator hop)
    rcases List.mem_cons.mp hmem with rfl | hmem
    · exact absurd hop (rechecking_perform_recheck config operator height)
    · exact ⟨height, hmem⟩

/-- If all rechecks under way are among the work put off, none is under way after draining. -/
theorem rechecking_drain
    (h : ∀ operator ∈ w.rechecking, ∃ height, Job.recheck operator height ∈ w.backlog) :
    ((drain config).runIn w).2.rechecking = [] := by
  rw [(drain_eq_performAll config w).1]
  exact rechecking_performAll config h

end Engine

/-! ## Operations -/

/-- What is done with an engine. -/
inductive Operation (κ : Type) where
  /-- Something is done on the store, or the chain moves on. -/
  | act (action : Action κ)
  /-- The followers of a validator are told that it left jail. -/
  | announceUnjail (record : ValidatorRecord) (height : Nat)
  /-- The slashing window is refreshed. -/
  | refreshWindow
  /-- Reports are sent. -/
  | report (interval height : Nat)

/-- Between two operations nothing is left to do and no recheck is under way. -/
structure World.Idle {κ σ : Type} (w : World κ σ) : Prop where
  backlog : w.backlog = []
  rechecking : w.rechecking = []

namespace Operation

variable {κ : Type}

/-- The operation is the request of a target. -/
def IsRequest (o : Operation κ) : Prop :=
  ∃ operator target,
    o = .act (.subscribe operator target) ∨ o = .act (.unsubscribe operator target)

/-- The height of the latest block after the operation. -/
def heightAfter (lastHeight : Nat) : Operation κ → Nat
  | act (.block b) => max lastHeight b.height
  | _ => lastHeight

theorem heightAfter_of_ne {o : Operation κ} (h : ∀ b, o ≠ .act (.block b)) (lastHeight : Nat) :
    o.heightAfter lastHeight = lastHeight := by
  rcases o with a | _ | _ | _
  · cases a with
    | block b => exact absurd rfl (h b)
    | _ => rfl
  · rfl
  · rfl
  · rfl

theorem le_heightAfter (o : Operation κ) (lastHeight : Nat) :
    lastHeight ≤ o.heightAfter lastHeight := by
  unfold heightAfter
  split
  · exact Nat.le_max_left _ _
  · exact Nat.le_refl _

variable [Chain κ] (config : TrackerConfig)

/-- The step of an operation. -/
def work : Operation κ → Work κ Memory Unit
  | act a => a.work config
  | announceUnjail record height => discard (Engine.announceUnjail record height)
  | refreshWindow => discard Engine.refreshWindow
  | report interval height => discard (Report.pass interval height)

/-- An operation with all the work that it puts off, whether or not it fails. -/
def step (o : Operation κ) : Work κ Memory Unit :=
  discard (attempt (Engine.settled config (o.work config)))

variable {P : Memory → Prop} {w : World κ Memory} {o : Operation κ}

theorem maintains_work (hU : Memory.KeptBy (Memory.Upkeep config.accountPrefix) P)
    (hE : o.IsRequest → Memory.KeptBy (Memory.Enlist config.trackAll) P)
    (ho : ∀ b, o ≠ .act (.block b)) : Keeps (Maintains P) (o.work config) w := by
  cases o with
  | act a =>
    cases a with
    | turn chain => exact Maintains.still rfl rfl rfl rfl rfl
    | bootstrap => exact (Registry.maintains_bootstrap hU).discard
    | subscribe op target =>
      exact (Following.maintains_subscribe hU (hE ⟨op, target, Or.inl rfl⟩)).discard
    | unsubscribe op target => exact Following.maintains_unsubscribe (hE ⟨op, target, Or.inr rfl⟩)
    | block b => exact absurd rfl (ho b)
    | checkJailed op height => exact (Engine.maintains_checkJailed hU op height).discard
    | scan height => exact (Registry.maintains_scan hU height).discard
    | refreshOne op => exact (Registry.maintains_refreshOne hU).discard
  | announceUnjail record height => exact (Engine.maintains_announceUnjail record height).discard
  | refreshWindow => exact Engine.maintains_refreshWindow.discard
  | report interval height => exact (Report.maintains_pass interval height).discard

theorem runIn_step (o : Operation κ) (w : World κ Memory) :
    ((o.step config).runIn w).2 = ((Engine.settled config (o.work config)).runIn w).2 ∧
      (o.step config).effects w = (Engine.settled config (o.work config)).effects w := by
  simp [step]

/-- An operation that is no block leaves no work behind. -/
theorem runIn_step_of_ne (ho : ∀ b, o ≠ .act (.block b)) (hw : w.backlog = []) :
    ((o.step config).runIn w).2 = ((o.work config).runIn w).2 ∧
      (o.step config).effects w = (o.work config).effects w := by
  have hkept : Keeps (Maintains fun _ => True) (o.work config) w :=
    maintains_work config (fun _ _ _ _ => trivial) (fun _ _ _ _ _ => trivial) ho
  obtain ⟨hsw, hse⟩ := Engine.runIn_settled config (o.work config) w
  obtain ⟨hnil, hnone⟩ := Engine.drain_of_nil config (hkept.backlog.trans hw)
  obtain ⟨hrun, heff⟩ := o.runIn_step config w
  rw [hrun, heff, hsw, hse, hnil, hnone, List.append_nil]
  exact ⟨rfl, rfl⟩

end Operation

/-! ## The phases of a block -/

namespace Engine

variable {κ : Type} (config : TrackerConfig) (b : Block) {w : World κ Memory}

/-- Counting the votes of a block observes, and begins rechecks only together with the work. -/
structure Counts (P : Memory → Prop) (w : World κ Memory) : Prop where
  store : P w.store
  height : w.lastHeight = b.height
  rechecking : ∀ operator ∈ w.rechecking, ∃ height, Job.recheck operator height ∈ w.backlog

variable {P : Memory → Prop} {b}

theorem counts_update (hO : Memory.KeptBy (Memory.Observe config.historyWindow b.height) P)
    (hw : Counts b P w) (operator : String) :
    Counts b P ((update config b operator).runIn w).2 := by
  have hs : P ((update config b operator).runIn w).2.store := by
    rcases store_update config b operator w with h | h
    · rw [h]
      exact hw.store
    · exact hO _ _ h hw.store
  obtain ⟨store, outbox, begun, jobs, hrun, hbegun, -⟩ := update_frame config b operator w
  rw [hrun] at hs ⊢
  refine ⟨hs, hw.height, fun other hother => ?_⟩
  rcases List.mem_append.mp hother with hother | hother
  · obtain ⟨height, hmem⟩ := hw.rechecking other hother
    exact ⟨height, List.mem_append_left jobs hmem⟩
  · obtain ⟨rfl, hmem⟩ := hbegun other hother
    exact ⟨b.height, List.mem_append_right w.backlog hmem⟩

theorem counts_updateAll (hO : Memory.KeptBy (Memory.Observe config.historyWindow b.height) P)
    (hw : Counts b P w) (operators : List String) :
    Counts b P ((updateAll config b operators).runIn w).2 := by
  rw [world_updateAll]
  induction operators generalizing w with
  | nil => exact hw
  | cons operator operators ih => exact ih (counts_update config hO hw operator)

theorem counts_counting [Chain κ]
    (hU : Memory.KeptBy (Memory.Upkeep config.accountPrefix) P) (hw : w.Idle) (hs : P w.store) :
    Counts b P (counting config b w) ∧ (counting config b w).Idle := by
  have h := maintains_drain config hU (w.accept config b)
  have hr : (counting config b w).rechecking = [] := h.rechecking_eq_nil hw.rechecking
  refine ⟨⟨h.store hs, h.height, ?_⟩, h.backlog, hr⟩
  rw [hr]
  simp

end Engine

namespace Operation

open Engine

variable {κ : Type} [Chain κ] (config : TrackerConfig) {P : Memory → Prop} {w : World κ Memory}
  {o : Operation κ}

/-- What holds after an operation. -/
structure Carried (P : Memory → Prop) (o : Operation κ) (w w' : World κ Memory) : Prop where
  idle : w'.Idle
  height : w'.lastHeight = o.heightAfter w.lastHeight
  store : P w'.store

/-- An operation keeps a property of the store that its single writes keep. -/
theorem carried_step (hU : Memory.KeptBy (Memory.Upkeep config.accountPrefix) P)
    (hE : o.IsRequest → Memory.KeptBy (Memory.Enlist config.trackAll) P)
    (hO : ∀ b, o = .act (.block b) → w.lastHeight < b.height →
      Memory.KeptBy (Memory.Observe config.historyWindow b.height) P)
    (hw : w.Idle) (hs : P w.store) : Carried P o w ((o.step config).runIn w).2 := by
  by_cases hb : ∃ b, o = .act (.block b)
  swap
  · have ho : ∀ b, o ≠ .act (.block b) := fun b h => hb ⟨b, h⟩
    have h : Keeps (Maintains P) (o.work config) w := maintains_work config hU hE ho
    rw [(runIn_step_of_ne config ho hw.backlog).1]
    exact ⟨⟨h.backlog.trans hw.backlog, h.rechecking_eq_nil hw.rechecking⟩,
      h.height.trans (heightAfter_of_ne ho _).symm, h.store hs⟩
  obtain ⟨b, rfl⟩ := hb
  show Carried P _ w (((Action.block b).step config).runIn w).2
  rcases Action.block_cases config b hw.backlog with
    ⟨hle, hrun, -⟩ | ⟨hlt, ⟨-, hrun, -⟩ | ⟨-, hrun, -⟩⟩
  · rw [hrun]
    exact ⟨hw, (Nat.max_eq_left hle).symm, hs⟩
  · obtain ⟨hc, hidle⟩ := counts_counting config (b := b) hU hw hs
    rw [hrun]
    exact ⟨hidle, hc.height.trans (Nat.max_eq_right (Nat.le_of_lt hlt)).symm, hc.store⟩
  · obtain ⟨hc, -⟩ := counts_counting config (b := b) hU hw hs
    have hv : Counts b P (counted config b w) :=
      counts_updateAll config (hO b rfl hlt) hc (tracked config w.store)
    have hl := maintains_drain config hU (counted config b w)
    rw [hrun]
    refine ⟨⟨hl.backlog, rechecking_drain config hv.rechecking⟩, ?_, hl.store hv.store⟩
    have hheight : ((drain config).runIn (counted config b w)).2.lastHeight = b.height :=
      hl.height.trans hv.height
    exact hheight.trans (Nat.max_eq_right (Nat.le_of_lt hlt)).symm

end Operation

/-! ## Runs -/

namespace Engine

variable {κ : Type} [Chain κ] (config : TrackerConfig) (chain : κ)

/-- The world after operations. -/
def after (w : World κ Memory) (os : List (Operation κ)) : World κ Memory :=
  os.foldl (fun w o => ((o.step config).runIn w).2) w

/-- The world after operations on an empty store. -/
def reachedBy (os : List (Operation κ)) : World κ Memory :=
  after config (.start config chain .empty) os

section Invariant

variable {P : Nat → Memory → Prop}
  (hmono : ∀ height height' s, height ≤ height' → P height s → P height' s)
  (hU : ∀ height, Memory.KeptBy (Memory.Upkeep config.accountPrefix) (P height))
  (hE : ∀ height, Memory.KeptBy (Memory.Enlist config.trackAll) (P height))
  (hO : ∀ height, 1 ≤ height →
    Memory.KeptBy (Memory.Observe config.historyWindow height) (P height))
include hmono hU hE hO

/-- An operation keeps a property of the store and the latest height. -/
theorem invariant_step (o : Operation κ) {w : World κ Memory} (hw : w.Idle)
    (hs : P w.lastHeight w.store) :
    ((o.step config).runIn w).2.Idle ∧
      P ((o.step config).runIn w).2.lastHeight ((o.step config).runIn w).2.store := by
  -- a block is observed at its own height, so the property is needed there before
  have hs' : P (o.heightAfter w.lastHeight) w.store :=
    hmono _ _ _ (o.le_heightAfter w.lastHeight) hs
  have h : Operation.Carried (P (o.heightAfter w.lastHeight)) o w ((o.step config).runIn w).2 := by
    refine Operation.carried_step config (hU _) (fun _ => hE _) (fun b hb hlt => ?_) hw hs'
    have hheight : o.heightAfter w.lastHeight = b.height := by
      rw [hb]
      exact Nat.max_eq_right (Nat.le_of_lt hlt)
    rw [hheight]
    exact hO b.height (Nat.lt_of_le_of_lt (Nat.zero_le _) hlt)
  refine ⟨h.idle, ?_⟩
  rw [h.height]
  exact h.store

theorem invariant_after (os : List (Operation κ)) {w : World κ Memory} (hw : w.Idle)
    (hs : P w.lastHeight w.store) :
    (after config w os).Idle ∧ P (after config w os).lastHeight (after config w os).store := by
  induction os generalizing w with
  | nil => exact ⟨hw, hs⟩
  | cons o os ih =>
    obtain ⟨hw', hs'⟩ := invariant_step config hmono hU hE hO o hw hs
    exact ih hw' hs'

/-- A property of the store and the latest height holds in every run if the empty store has it, if
the single writes keep it, and if it stays when the height grows. -/
theorem invariant (h0 : P 0 .empty) (os : List (Operation κ)) :
    (reachedBy config chain os).Idle ∧
      P (reachedBy config chain os).lastHeight (reachedBy config chain os).store :=
  invariant_after config hmono hU hE hO os (w := .start config chain .empty) ⟨rfl, rfl⟩ h0

end Invariant

end Engine

end Liveness
