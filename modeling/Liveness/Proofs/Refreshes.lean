import Liveness.Proofs.Calls

/-!
# When the slashing window is refreshed

A block that is taken puts a refresh of the slashing window off exactly if its height is a multiple
of the interval. As long as no block is skipped this happens once per interval. A run that skips the
multiples never refreshes the window, however far it goes.
-/

namespace Liveness

namespace Engine

theorem refreshDue_iff {config : TrackerConfig} {height : Nat} :
    refreshDue config height = true ↔ max config.refreshInterval 1 ∣ height := by
  rw [refreshDue, beq_iff_eq, Nat.dvd_iff_mod_eq_zero]

end Engine

/-- The height at which a refresh of the window was put off. -/
def Job.refreshHeight? (height : Nat) : Job → Option Nat
  | refreshWindow => some height
  | _ => none

theorem World.filterMap_refreshHeight? {κ σ : Type} {config : TrackerConfig} {w : World κ σ}
    (b : Block) :
    (w.dueJobs config b).filterMap (Job.refreshHeight? b.height) =
      if max config.refreshInterval 1 ∣ b.height then [b.height] else [] := by
  simp only [dueJobs, List.filterMap_cons, List.filterMap_append, Job.refreshHeight?,
    ← Engine.refreshDue_iff]
  split_ifs <;> rfl

namespace Call

variable {κ σ : Type} [Chain κ] [Store σ] {config : TrackerConfig} {w : World κ σ}

/-- The heights at which calls put a refresh of the window off. -/
def refreshes (config : TrackerConfig) (w : World κ σ) (cs : List (Call κ σ)) : List Nat :=
  (putOff config w cs).filterMap fun p => p.2.refreshHeight? p.1

/-- Of the heights that are taken, the multiples of the interval are those of a refresh. -/
theorem refreshes_eq_filter (hw : w.backlog = []) (hzero : w.lastHeight = 0)
    (cs : List (Call κ σ)) :
    refreshes config w cs =
      ((rising (blocks cs)).map (·.height)).filter (max config.refreshInterval 1 ∣ ·) := by
  induction cs using List.reverseRecOn with
  | nil => rfl
  | append_singleton cs c ih =>
    rw [refreshes, putOff_concat, List.filterMap_append, List.filterMap_map, ← refreshes, ih,
      blocks_concat, rising_concat, List.map_append, List.filter_append]
    congr 1
    show (c.taken config (after config w cs)).backlog.filterMap
      (Job.refreshHeight? c.block.height) = _
    rw [backlog_taken (backlog_after hw)]
    simp only [lt_lastHeight_iff hzero]
    by_cases h : c.block.RisesAbove (blocks cs)
    · rw [if_pos h, if_pos h, World.filterMap_refreshHeight?, List.map_singleton, List.filter_cons,
        List.filter_nil]
      simp only [decide_eq_true_eq]
    · rw [if_neg h, if_neg h]
      rfl

end Call

/-- Between two heights that lie an interval apart there is a multiple of it. -/
theorem exists_multiple {interval a b : Nat} (hpos : 0 < interval) (hab : a + interval ≤ b) :
    ∃ h, a < h ∧ h ≤ b ∧ interval ∣ h := by
  refine ⟨a / interval * interval + interval, Nat.lt_div_mul_add hpos, ?_, ?_⟩
  · exact (Nat.add_le_add_right (Nat.div_mul_le_self a interval) interval).trans hab
  · exact Nat.dvd_add_self_right.mpr (Nat.dvd_mul_left interval _)

namespace Engine

variable {κ σ : Type} [Chain κ] [Store σ]

/-- Whatever becomes of the chain and the store, a run of calls puts a refresh of the window off at
those heights that are taken and are multiples of the interval. So on the way from one height to
another that lies an interval above there is a refresh exactly if a multiple of the interval is
taken, and always if no height is skipped. -/
theorem refreshes_at_multiples (config : TrackerConfig) (chain : κ) (store : σ)
    (cs : List (Call κ σ)) :
    let interval := max config.refreshInterval 1
    let taken := (rising (Call.blocks cs)).map (·.height)
    let refreshes := Call.refreshes config (.start config chain store) cs
    refreshes = taken.filter (interval ∣ ·) ∧
      ∀ a ∈ taken, ∀ b ∈ taken, a + interval ≤ b →
        ((∃ h ∈ refreshes, a < h ∧ h ≤ b) ↔ ∃ h ∈ taken, a < h ∧ h ≤ b ∧ interval ∣ h) ∧
          ((∀ h, a < h → h ≤ b → h ∈ taken) → ∃ h ∈ refreshes, a < h ∧ h ≤ b) := by
  intro interval taken refreshes
  have hrefreshes : refreshes = taken.filter (interval ∣ ·) := Call.refreshes_eq_filter rfl rfl cs
  have hmem : ∀ h, h ∈ refreshes ↔ h ∈ taken ∧ interval ∣ h := by
    intro h
    rw [hrefreshes, List.mem_filter, decide_eq_true_eq]
  refine ⟨hrefreshes, fun a _ b _ hab => ⟨?_, fun hall => ?_⟩⟩
  · constructor
    · rintro ⟨h, hh, ha, hb⟩
      exact ⟨h, ((hmem h).mp hh).1, ha, hb, ((hmem h).mp hh).2⟩
    · rintro ⟨h, hh, ha, hb, hdvd⟩
      exact ⟨h, (hmem h).mpr ⟨hh, hdvd⟩, ha, hb⟩
  · obtain ⟨h, ha, hb, hdvd⟩ := exists_multiple (Nat.le_max_right _ 1) hab
    exact ⟨h, (hmem h).mpr ⟨hall h ha hb, hdvd⟩, ha, hb⟩

/-- A refresh of the window every ten blocks. -/
def tenfold : TrackerConfig := { TrackerConfig.standard with refreshInterval := 10 }

/-- On the way from height 8 to height 18 no height is skipped, and there is a refresh at 10. -/
theorem refreshes_at_multiples_without_gap :
    let cs := (List.range 11).map fun i => Call.empty (8 + i)
    let refreshes := Call.refreshes tenfold (.start tenfold Scripted.empty Memory.empty) cs
    (∀ h, 8 < h → h ≤ 18 → h ∈ (rising (Call.blocks cs)).map (·.height)) ∧
      (∃ h ∈ refreshes, 8 < h ∧ h ≤ 18) ∧ refreshes = [10] := by
  intro cs refreshes
  have hall : ∀ h, 8 < h → h ≤ 18 → h ∈ (rising (Call.blocks cs)).map (·.height) := by
    have hin : ∀ h, h ≤ 18 → 8 < h → h ∈ (rising (Call.blocks cs)).map (·.height) := by decide
    exact fun h ha hb => hin h hb ha
  obtain ⟨hrefreshes, hpair⟩ := refreshes_at_multiples tenfold Scripted.empty Memory.empty cs
  refine ⟨hall, ?_, ?_⟩
  · exact (hpair 8 (by decide) 18 (by decide) (by decide)).2 hall
  · exact hrefreshes.trans (by decide)

/-- Heights 9, 11, 19 and 21 reach over more than an interval and skip its multiples: no refresh is
put off. -/
theorem no_refreshes_of_skipped_multiples :
    let cs := [9, 11, 19, 21].map Call.empty
    (rising (Call.blocks cs)).map (·.height) = [9, 11, 19, 21] ∧
      9 + max tenfold.refreshInterval 1 ≤ 21 ∧
      Call.refreshes tenfold (.start tenfold Scripted.empty Memory.empty) cs = [] := by
  decide +kernel

end Engine

end Liveness
