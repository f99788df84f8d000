import Mathlib.Order.Interval.Finset.Nat
import Liveness.Proofs.Calls

/-!
# When reports are due

The schedule of reports knows the greatest bucket of the heights it was asked about. The engine asks
it about every block that it takes, so the bucket is that of the latest height, and a pass is put
off exactly at a block in a later bucket than the block taken before. Between the first block and
the last one the buckets of the passes increase, and there is a pass as soon as the bucket has
changed.
-/

namespace Liveness

open Work

/-! ## The schedule by itself -/

namespace Schedule

variable {s : Schedule} {heights : List Nat} {height latest : Nat}

/-- The schedule after heights, one after another. -/
def after (s : Schedule) (heights : List Nat) : Schedule :=
  heights.foldl (fun s height => (s.crosses height).2) s

theorem crosses_iff :
    (s.crosses height).1 = true ↔ ∃ latest ∈ s.bucket, latest < height / s.interval := by
  cases h : s.bucket with
  | none => simp [crosses, h]
  | some latest => by_cases hb : latest < height / s.interval <;> simp [crosses, h, hb]

theorem bucket_crosses_of_none (h : s.bucket = none) (height : Nat) :
    (s.crosses height).2.bucket = some (height / s.interval) := by simp [crosses, h]

theorem bucket_crosses_of_some (h : s.bucket = some latest) (height : Nat) :
    (s.crosses height).2.bucket = some (max latest (height / s.interval)) := by
  by_cases hb : latest < height / s.interval
  · simp [crosses, h, hb, Nat.max_eq_right hb.le]
  · simp [crosses, h, hb, Nat.max_eq_left (Nat.not_lt.mp hb)]

@[simp] theorem interval_after : (s.after heights).interval = s.interval := by
  induction heights generalizing s with
  | nil => rfl
  | cons height rest ih => exact ih.trans (interval_crosses s height)

theorem bucket_after_of_some (h : s.bucket = some latest) (heights : List Nat) :
    (s.after heights).bucket = some ((heights.map (· / s.interval)).foldl max latest) := by
  induction heights generalizing s latest with
  | nil => exact h
  | cons height rest ih =>
    have hrest := ih (bucket_crosses_of_some h height)
    rwa [interval_crosses] at hrest

/-- The bucket is the greatest of the heights so far. -/
theorem bucket_after_of_none (h : s.bucket = none) (heights : List Nat) :
    (s.after heights).bucket = (heights.map (· / s.interval)).max? := by
  cases heights with
  | nil => exact h
  | cons height rest =>
    have hrest := bucket_after_of_some (bucket_crosses_of_none h height) rest
    rw [interval_crosses] at hrest
    rw [List.map_cons, List.max?_cons']
    exact hrest

/-- A height is due exactly if it is not the first one and its bucket lies above all before. -/
theorem crosses_after_every_iff (interval : Nat) :
    (((every interval).after heights).crosses height).1 = true ↔
      heights ≠ [] ∧ ∀ p ∈ heights, p / max interval 1 < height / max interval 1 := by
  rw [crosses_iff, interval_after, bucket_after_of_none rfl]
  show (∃ latest ∈ (heights.map (· / max interval 1)).max?, latest < height / max interval 1) ↔ _
  constructor
  · rintro ⟨latest, hlatest, hlt⟩
    obtain ⟨hmem, hmax⟩ := List.max?_eq_some_iff.mp hlatest
    refine ⟨?_, fun p hp => (hmax _ (List.mem_map_of_mem hp)).trans_lt hlt⟩
    rintro rfl
    cases hmem
  · rintro ⟨hne, hall⟩
    cases hmax : (heights.map (· / max interval 1)).max? with
    | none => exact absurd (List.map_eq_nil_iff.mp (List.max?_eq_none_iff.mp hmax)) hne
    | some latest =>
      obtain ⟨p, hp, rfl⟩ := List.mem_map.mp (List.max?_eq_some_iff.mp hmax).1
      exact ⟨_, rfl, hall p hp⟩

end Schedule

/-! ## Height and schedule -/

/-- The height of a pass of reports. -/
def Job.passHeight? : Job → Option Nat
  | report _ height => some height
  | _ => none

/-- Nothing is left to do, and the schedule knows the bucket of the latest height. -/
structure World.OnTime {κ σ : Type} (config : TrackerConfig) (w : World κ σ) : Prop where
  idle : w.backlog = []
  interval : w.reports.interval = max config.reportInterval 1
  bucket : w.reports.bucket =
    if w.lastHeight = 0 then none else some (w.lastHeight / max config.reportInterval 1)

namespace World

variable {κ σ : Type} {config : TrackerConfig} {w : World κ σ} {height : Nat}

theorem onTime_start (config : TrackerConfig) (chain : κ) (store : σ) :
    (World.start config chain store).OnTime config := ⟨rfl, rfl, rfl⟩

/-- A height is due if it lies in a later bucket than the latest one, and there is one. -/
theorem OnTime.crosses_iff (h : w.OnTime config) :
    (w.reports.crosses height).1 = true ↔ 0 < w.lastHeight ∧
      w.lastHeight / max config.reportInterval 1 < height / max config.reportInterval 1 := by
  rw [Schedule.crosses_iff, h.interval, h.bucket]
  by_cases hz : w.lastHeight = 0
  · simp [hz]
  · simp [hz, Nat.pos_of_ne_zero hz]

theorem filterMap_dueJobs (b : Block) :
    (w.dueJobs config b).filterMap Job.passHeight? =
      if (w.reports.crosses b.height).1 = true then [b.height] else [] := by
  simp only [dueJobs, List.filterMap_cons, List.filterMap_append, Job.passHeight?]
  split_ifs <;> rfl

theorem report_mem_dueJobs {b : Block} {interval : Nat} :
    .report interval height ∈ w.dueJobs config b ↔
      (interval = w.reports.interval ∧ height = b.height) ∧
        (w.reports.crosses b.height).1 = true := by
  simp only [dueJobs, List.mem_cons, List.mem_append]
  split_ifs <;> simp_all

end World

namespace Call

variable {κ σ : Type} [Chain κ] [Store σ] {config : TrackerConfig} {c : Call κ σ} {w : World κ σ}

/-- Height and schedule stay in step. -/
theorem onTime_step (hw : w.OnTime config) (c : Call κ σ) : (step config w c).OnTime config := by
  refine ⟨backlog_step, ?_, ?_⟩
  · rcases Nat.lt_or_ge w.lastHeight c.block.height with h | h
    · rw [(step_of_lt h).2, Schedule.interval_crosses, hw.interval]
    · rw [(step_of_le h).2, hw.interval]
  · rcases Nat.lt_or_ge w.lastHeight c.block.height with h | h
    · rw [(step_of_lt h).1, (step_of_lt h).2, if_neg (Nat.ne_zero_of_lt h), ← hw.interval]
      by_cases hz : w.lastHeight = 0
      · rw [Schedule.bucket_crosses_of_none (by rw [hw.bucket, if_pos hz])]
      · rw [Schedule.bucket_crosses_of_some (by rw [hw.bucket, if_neg hz]), ← hw.interval,
          Nat.max_eq_right (Nat.div_le_div_right h.le)]
    · rw [(step_of_le h).1, (step_of_le h).2, hw.bucket]

theorem onTime_after (hw : w.OnTime config) (cs : List (Call κ σ)) :
    (after config w cs).OnTime config := by
  induction cs generalizing w with
  | nil => exact hw
  | cons c cs ih => exact ih (onTime_step hw c)

/-- The heights of the passes that calls put off. -/
def passes (config : TrackerConfig) (w : World κ σ) (cs : List (Call κ σ)) : List Nat :=
  (putOff config w cs).filterMap fun p => p.2.passHeight?

omit [Chain κ] [Store σ] in
/-- A call puts a pass off if it is a new block in a later bucket than the one taken before. -/
theorem filterMap_taken (hw : w.OnTime config) (c : Call κ σ) :
    (c.taken config w).backlog.filterMap Job.passHeight? =
      if w.lastHeight < c.block.height ∧ 0 < w.lastHeight ∧
          w.lastHeight / max config.reportInterval 1 <
            c.block.height / max config.reportInterval 1
        then [c.block.height] else [] := by
  rw [backlog_taken hw.idle]
  by_cases h : w.lastHeight < c.block.height
  · rw [if_pos h, World.filterMap_dueJobs]
    simp only [hw.crosses_iff, h, true_and]
  · rw [if_neg h, if_neg fun hc => h hc.1]
    rfl

theorem passes_concat (hw : w.OnTime config) (cs : List (Call κ σ)) (c : Call κ σ) :
    passes config w (cs ++ [c]) = passes config w cs ++
      let last := (after config w cs).lastHeight
      if last < c.block.height ∧ 0 < last ∧
          last / max config.reportInterval 1 < c.block.height / max config.reportInterval 1
        then [c.block.height] else [] := by
  rw [passes, putOff_concat, List.filterMap_append, List.filterMap_map, ← passes]
  congr 1
  exact filterMap_taken (onTime_after hw cs) c

end Call

/-! ## Passes between two heights -/

/-- The passes on the way from one height to another: their buckets increase and lie between those
of the two heights, and there is a pass if the buckets of the two heights differ. -/
structure Spaced (interval low high : Nat) (passes : List Nat) : Prop where
  le : low ≤ high
  ordered : (passes.map (· / interval)).Pairwise (· < ·)
  above : ∀ p ∈ passes, low / interval < p / interval
  below : ∀ p ∈ passes, p ≤ high
  exists_of_lt : low / interval < high / interval → passes ≠ []

namespace Spaced

variable {interval low high height : Nat} {passes : List Nat}

theorem nil (interval low : Nat) : Spaced interval low low [] where
  le := le_rfl
  ordered := List.Pairwise.nil
  above := by simp
  below := by simp
  exists_of_lt := fun h => absurd h (lt_irrefl _)

/-- One more height, with a pass if it lies in a later bucket than the height before. -/
theorem concat (h : Spaced interval low high passes) (hlt : high < height) :
    Spaced interval low height
      (passes ++ if high / interval < height / interval then [height] else []) := by
  have hlow : low / interval ≤ high / interval := Nat.div_le_div_right h.le
  have hhigh : high / interval ≤ height / interval := Nat.div_le_div_right hlt.le
  have hbelow : ∀ p ∈ passes, p ≤ height := fun p hp => (h.below p hp).trans hlt.le
  split_ifs with hdue
  · refine ⟨h.le.trans hlt.le, ?_, ?_, ?_, by simp⟩
    · rw [List.map_append]
      refine List.pairwise_append.mpr ⟨h.ordered, List.pairwise_singleton _ _, ?_⟩
      intro bucket hb bucket' hb'
      obtain ⟨p, hp, rfl⟩ := List.mem_map.mp hb
      obtain rfl := List.mem_singleton.mp hb'
      exact (Nat.div_le_div_right (h.below p hp)).trans_lt hdue
    · exact List.forall_mem_append.mpr ⟨h.above, by simpa using hlow.trans_lt hdue⟩
    · exact List.forall_mem_append.mpr ⟨hbelow, by simp⟩
  · have heq : height / interval = high / interval := le_antisymm (Nat.not_lt.mp hdue) hhigh
    rw [List.append_nil]
    exact ⟨h.le.trans hlt.le, h.ordered, h.above, hbelow, heq ▸ h.exists_of_lt⟩

/-- There are no more passes than buckets. -/
theorem length_le (h : Spaced interval low high passes) :
    passes.length ≤ high / interval - low / interval := by
  have hnodup : (passes.map (· / interval)).Nodup := h.ordered.imp fun hlt => hlt.ne
  have hsub : (passes.map (· / interval)).toFinset ⊆
      Finset.Ioc (low / interval) (high / interval) := by
    intro bucket hb
    obtain ⟨p, hp, rfl⟩ := List.mem_map.mp (List.mem_toFinset.mp hb)
    exact Finset.mem_Ioc.mpr ⟨h.above p hp, Nat.div_le_div_right (h.below p hp)⟩
  calc passes.length = (passes.map (· / interval)).toFinset.card := by
        rw [List.toFinset_card_of_nodup hnodup, List.length_map]
    _ ≤ (Finset.Ioc (low / interval) (high / interval)).card := Finset.card_le_card hsub
    _ = high / interval - low / interval := Nat.card_Ioc _ _

end Spaced

namespace Call

variable {κ σ : Type} [Chain κ] [Store σ] {config : TrackerConfig} {w : World κ σ}

/-- The passes are among the heights that are taken, but for the first one, and they are those on
the way from the first height to the latest one. -/
theorem spaced_passes (hw : w.OnTime config) (hzero : w.lastHeight = 0) (cs : List (Call κ σ)) :
    (passes config w cs).Sublist ((rising (blocks cs)).map (·.height)).tail ∧
      ∀ a ∈ (rising (blocks cs)).head?,
        Spaced (max config.reportInterval 1) a.height (latestHeight (blocks cs))
          (passes config w cs) := by
  induction cs using List.reverseRecOn with
  | nil => exact ⟨List.Sublist.refl [], by simp [blocks, rising]⟩
  | append_singleton cs c ih =>
    obtain ⟨hsub, hspaced⟩ := ih
    have hlatest : (after config w cs).lastHeight = latestHeight (blocks cs) :=
      lastHeight_after hzero
    rw [passes_concat hw, blocks_concat, latestHeight_concat, rising_concat]
    simp only [hlatest, ← Block.risesAbove_iff]
    by_cases h : c.block.RisesAbove (blocks cs)
    · simp only [h, true_and, if_true]
      cases hold : rising (blocks cs) with
      | nil =>
        -- the first block that is taken: no pass, and the way starts here
        have hpasses : passes config w cs = [] := List.sublist_nil.mp (by simpa [hold] using hsub)
        have hnone : latestHeight (blocks cs) = 0 := by rw [latestHeight, hold]; rfl
        simp [hpasses, hnone, Spaced.nil]
      | cons a rest =>
        have hway := hspaced a (by rw [hold]; rfl)
        have hpos : 0 < latestHeight (blocks cs) :=
          (mem_of_mem_rising (hold ▸ List.mem_cons_self)).2.trans_le hway.le
        simp only [hpos, true_and]
        refine ⟨?_, fun b hb => ?_⟩
        · rw [List.map_append, List.map_cons, List.cons_append, List.tail_cons]
          refine List.Sublist.append (by simpa [hold] using hsub) ?_
          split_ifs <;> simp
        · obtain rfl := Option.some.inj hb
          exact hway.concat (Block.risesAbove_iff.mp h)
    · simp only [h, false_and, if_false, List.append_nil]
      exact ⟨hsub, hspaced⟩

/-- No two passes lie in one bucket. -/
theorem pairwise_passes (hw : w.OnTime config) (hzero : w.lastHeight = 0) (cs : List (Call κ σ)) :
    ((passes config w cs).map (· / max config.reportInterval 1)).Pairwise (· < ·) := by
  obtain ⟨hsub, hspaced⟩ := spaced_passes hw hzero cs
  cases hhead : (rising (blocks cs)).head? with
  | none =>
    rw [List.head?_eq_none_iff.mp hhead] at hsub
    rw [List.sublist_nil.mp hsub]
    exact List.Pairwise.nil
  | some a => exact (hspaced a hhead).ordered

/-- A call puts a pass off if its block rises, and lies in a later bucket than the last one that
did. -/
theorem report_mem_taken (hw : w.OnTime config) (hzero : w.lastHeight = 0) (cs : List (Call κ σ))
    (c : Call κ σ) {interval height : Nat} :
    .report interval height ∈ (c.taken config (after config w cs)).backlog ↔
      (interval = max config.reportInterval 1 ∧ height = c.block.height) ∧
        c.block.RisesAbove (blocks cs) ∧ ∃ p ∈ (rising (blocks cs)).getLast?,
          p.height / max config.reportInterval 1 <
            c.block.height / max config.reportInterval 1 := by
  have hafter := onTime_after hw cs
  have hlatest : (after config w cs).lastHeight = latestHeight (blocks cs) := lastHeight_after hzero
  rw [exists_getLast?_rising (P := fun p => p / max config.reportInterval 1 <
      c.block.height / max config.reportInterval 1),
    Block.risesAbove_iff, ← hlatest, backlog_taken hafter.idle]
  by_cases h : (after config w cs).lastHeight < c.block.height
  · rw [if_pos h, World.report_mem_dueJobs, hafter.crosses_iff, hafter.interval]
    simp only [h, true_and]
  · rw [if_neg h]
    simp [h]

end Call

/-! ## Runs -/

namespace Engine

variable {κ σ : Type} [Chain κ] [Store σ]

/-- A height is due by itself exactly if it is not the first one and its bucket lies above all
before. Whatever becomes of the chain and the store, a call puts a pass of reports off exactly if
its block rises above all before, is not the first one that does, and lies in a later bucket than
the last one that did; and what a call puts off it does before anything else. The passes of a run
are among the heights that were taken, but for the first one; no two of them lie in one bucket,
there are no more of them than buckets from the first height to the last one, and there is one if
the buckets of these two differ. -/
theorem passes_follow_crossings (config : TrackerConfig) (chain : κ) (store : σ) :
    let interval := max config.reportInterval 1
    let start := World.start config chain store
    (∀ heights height,
      (((Schedule.every config.reportInterval).after heights).crosses height).1 = true ↔
        heights ≠ [] ∧ ∀ p ∈ heights, p / interval < height / interval) ∧
    (∀ (cs : List (Call κ σ)) (c : Call κ σ),
      let w := Call.after config start cs
      (∀ i height, .report i height ∈ (c.taken config w).backlog ↔
        (i = interval ∧ height = c.block.height) ∧ c.block.RisesAbove (Call.blocks cs) ∧
          ∃ p ∈ (rising (Call.blocks cs)).getLast?,
            p.height / interval < c.block.height / interval) ∧
      (drain config).effects (c.taken config w) <+: (c.work config).effects (c.world w)) ∧
    ∀ cs : List (Call κ σ),
      let taken := (rising (Call.blocks cs)).map (·.height)
      let passes := Call.passes config start cs
      passes.Sublist taken.tail ∧ (passes.map (· / interval)).Pairwise (· < ·) ∧
        ∀ a ∈ taken.head?, ∀ b ∈ taken.getLast?,
          passes.length ≤ b / interval - a / interval ∧
            (a / interval ≠ b / interval → passes ≠ []) := by
  intro interval start
  have hstart : start.OnTime config := World.onTime_start config chain store
  refine ⟨fun heights height => Schedule.crosses_after_every_iff config.reportInterval, ?_, ?_⟩
  · intro cs c w
    refine ⟨fun i height => Call.report_mem_taken hstart rfl cs c, Call.effects_taken_prefix ?_⟩
    exact (Call.onTime_after hstart cs).idle
  · intro cs taken passes
    obtain ⟨hsub, hspaced⟩ := Call.spaced_passes hstart rfl cs
    refine ⟨hsub, Call.pairwise_passes hstart rfl cs, fun a ha b hb => ?_⟩
    obtain ⟨first, hfirst, rfl⟩ := Option.map_eq_some_iff.mp (List.head?_map.symm.trans ha)
    have hlast : latestHeight (Call.blocks cs) = b := by
      rw [latestHeight, ← List.getLast?_map, hb, Option.getD_some]
    have hway := hlast ▸ hspaced first hfirst
    have hbuckets : first.height / interval ≤ b / interval := Nat.div_le_div_right hway.le
    exact ⟨hway.length_le, fun hne => hway.exists_of_lt (lt_of_le_of_ne hbuckets hne)⟩

/-- Reports every ten blocks. -/
def decades : TrackerConfig := { TrackerConfig.standard with reportInterval := 10 }

/-- The first block is at 3. There are passes at 12 and at 31, and none at the stale blocks between;
from 3 to 31 there are three crossings. -/
theorem passes_follow_crossings_of_gap :
    let cs := [3, 12, 12, 9].map Call.empty
    let start := World.start decades Scripted.empty Memory.empty
    let passes := Call.passes decades start (cs ++ [Call.empty 31])
    .report 10 31 ∈ ((Call.empty 31).taken decades (Call.after decades start cs)).backlog ∧
      passes = [12, 31] ∧ passes.length ≤ 31 / 10 - 3 / 10 := by
  intro cs start passes
  obtain ⟨-, hcall, hrun⟩ := passes_follow_crossings decades Scripted.empty Memory.empty
  refine ⟨((hcall cs (Call.empty 31)).1 10 31).mpr (by decide), by decide +kernel, ?_⟩
  exact ((hrun (cs ++ [Call.empty 31])).2.2 3 (by decide) 31 (by decide)).1

/-- A block at height 0 is never taken, so the block at 10 is the first one and no pass is put off,
although it lies in a later bucket than the only block before. -/
theorem no_passes_after_zero :
    let before := [Call.empty 0]
    let start := World.start decades Scripted.empty Memory.empty
    (∀ b ∈ Call.blocks before, b.height < 10) ∧
      (∃ p ∈ (Call.blocks before).getLast?, p.height / 10 < 10 / 10) ∧
      Call.passes decades start (before ++ [Call.empty 10]) = [] := by
  decide +kernel

end Engine

end Liveness
