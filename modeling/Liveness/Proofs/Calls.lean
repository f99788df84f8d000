import Liveness.Chain.Scripted
import Liveness.Proofs.Rising
import Liveness.Proofs.Steady

/-!
# Calls of the engine

The engine is called with one block after another, and between two calls the chain and the store may
become any other ones. The blocks that are taken are those that rise above all blocks before, and
the latest height is the height of the last of them.
-/

namespace Liveness

open Work

/-- A call of the engine: a block, and what the chain and the store have become by then. -/
structure Call (κ σ : Type) where
  /-- The chain. -/
  chain : κ
  /-- The store. -/
  store : σ
  /-- The block. -/
  block : Block

namespace Call

variable {κ σ : Type}

/-- The blocks. -/
def blocks (cs : List (Call κ σ)) : List Block := cs.map (·.block)

/-- A call with an empty block, while the chain and the store are empty. -/
def empty (height : Nat) : Call Scripted Memory :=
  ⟨Scripted.empty, Memory.empty, ⟨height, "", 0, []⟩⟩

/-- The world in which the engine is called. -/
def world (c : Call κ σ) (w : World κ σ) : World κ σ :=
  { w with chain := c.chain, store := c.store }

/-- The world in which the block is taken, if it is newer than the latest one, and none of the work
that it puts off is done yet. -/
def taken (config : TrackerConfig) (c : Call κ σ) (w : World κ σ) : World κ σ :=
  if c.block.height ≤ w.lastHeight then c.world w
  else ((Engine.accept config c.block).runIn (c.world w)).2

variable [Chain κ] [Store σ] (config : TrackerConfig)

/-- The block is handled, and all the work that it puts off is done. -/
def work (c : Call κ σ) : Work κ σ Outcome :=
  Engine.settled config (Engine.handleBlock config c.block)

/-- The world after a call. -/
def step (w : World κ σ) (c : Call κ σ) : World κ σ := ((c.work config).runIn (c.world w)).2

/-- The world after calls, one after another. -/
def after (w : World κ σ) (cs : List (Call κ σ)) : World κ σ := cs.foldl (step config) w

/-- The work that calls put off when their blocks are taken, each with the height of its block. -/
def putOff (w : World κ σ) : List (Call κ σ) → List (Nat × Job)
  | [] => []
  | c :: cs => (c.taken config w).backlog.map (c.block.height, ·) ++ putOff (step config w c) cs

/-! ## What a call does -/

variable {config} {c : Call κ σ} {w : World κ σ}

omit [Chain κ] [Store σ] in
theorem taken_of_lt (h : w.lastHeight < c.block.height) :
    c.taken config w = (c.world w).accept config c.block := by
  rw [taken, if_neg (Nat.not_le.mpr h), (Engine.runIn_accept config c.block (c.world w)).1]

omit [Chain κ] [Store σ] in
theorem backlog_taken (hw : w.backlog = []) :
    (c.taken config w).backlog =
      if w.lastHeight < c.block.height then w.dueJobs config c.block else [] := by
  split_ifs with h
  · rw [taken_of_lt h]
    show w.backlog ++ w.dueJobs config c.block = _
    rw [hw, List.nil_append]
  · rw [taken, if_pos (Nat.not_lt.mp h)]
    exact hw

/-- What a call puts off it does before anything else. -/
theorem effects_taken_prefix (hw : w.backlog = []) :
    (Engine.drain config).effects (c.taken config w) <+: (c.work config).effects (c.world w) := by
  rcases Nat.lt_or_ge w.lastHeight c.block.height with h | h
  · rw [taken_of_lt h]
    exact Engine.effects_drain_prefix config h
  · have hnil : (c.world w).backlog = [] := hw
    rw [taken, if_pos h, (Engine.drain_of_nil config hnil).2]
    exact List.nil_prefix

theorem step_of_le (h : c.block.height ≤ w.lastHeight) :
    (step config w c).lastHeight = w.lastHeight ∧ (step config w c).reports = w.reports := by
  have hsettled := Engine.sameClock_settled config (w := c.world w)
    (Engine.handleBlock config c.block)
  have hrun : (Engine.handleBlock config c.block).runIn (c.world w) = (.ok .zero, c.world w) :=
    (Engine.handleBlock_of_le config c.block (w := c.world w) h).1
  rw [hrun] at hsettled
  exact ⟨hsettled.height, hsettled.reports⟩

theorem step_of_lt (h : w.lastHeight < c.block.height) :
    (step config w c).lastHeight = c.block.height ∧
      (step config w c).reports = (w.reports.crosses c.block.height).2 := by
  have hsettled := Engine.sameClock_settled config (w := c.world w)
    (Engine.handleBlock config c.block)
  have hhandled := Engine.sameClock_handleBlock config (w := c.world w) h
  exact ⟨hsettled.height.trans hhandled.height, hsettled.reports.trans hhandled.reports⟩

theorem backlog_step : (step config w c).backlog = [] := Engine.backlog_settled config _

/-! ## What calls do -/

variable {cs : List (Call κ σ)}

omit [Chain κ] [Store σ] in
theorem blocks_concat : blocks (cs ++ [c]) = blocks cs ++ [c.block] := List.map_append

theorem after_concat : after config w (cs ++ [c]) = step config (after config w cs) c := by
  rw [after, List.foldl_append]
  rfl

theorem putOff_concat :
    putOff config w (cs ++ [c]) = putOff config w cs ++
      (c.taken config (after config w cs)).backlog.map (c.block.height, ·) := by
  induction cs generalizing w with
  | nil => exact List.append_nil _
  | cons d cs ih =>
    rw [List.cons_append, putOff, ih, putOff, List.append_assoc]
    rfl

theorem backlog_after (hw : w.backlog = []) : (after config w cs).backlog = [] := by
  rcases List.eq_nil_or_concat cs with rfl | ⟨cs, c, rfl⟩
  · exact hw
  · rw [List.concat_eq_append, after_concat]
    exact backlog_step

/-- The engine takes the blocks that rise. -/
theorem lastHeight_after (hw : w.lastHeight = 0) :
    (after config w cs).lastHeight = latestHeight (blocks cs) := by
  induction cs using List.reverseRecOn with
  | nil => exact hw
  | append_singleton cs c ih =>
    rw [after_concat, blocks_concat, latestHeight_concat]
    split_ifs with h
    · rw [Block.risesAbove_iff, ← ih] at h
      exact (step_of_lt h).1
    · rw [Block.risesAbove_iff, ← ih, Nat.not_lt] at h
      exact (step_of_le h).1.trans ih

theorem lt_lastHeight_iff (hw : w.lastHeight = 0) (c : Call κ σ) :
    (after config w cs).lastHeight < c.block.height ↔ c.block.RisesAbove (blocks cs) := by
  rw [Block.risesAbove_iff, lastHeight_after hw]

end Call

end Liveness
