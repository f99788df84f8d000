import Mathlib.Data.List.Induction
import Mathlib.Order.Nat
import Liveness.Block

/-!
# Rising blocks

The blocks that lie above zero and above all blocks before them. Their heights increase, and the
last of them has the greatest height of all.
-/

namespace Liveness

/-- The block is above zero and above all others. -/
def Block.RisesAbove (b : Block) (before : List Block) : Prop :=
  0 < b.height ∧ ∀ c ∈ before, c.height < b.height

instance (b : Block) (before : List Block) : Decidable (b.RisesAbove before) :=
  inferInstanceAs (Decidable (_ ∧ _))

/-- The blocks that rise above all before them. -/
def rising (bs : List Block) : List Block :=
  (bs.zipIdx.filter fun (b, i) => b.RisesAbove (bs.take i)).map (·.1)

theorem rising_concat (bs : List Block) (b : Block) :
    rising (bs ++ [b]) = rising bs ++ if b.RisesAbove bs then [b] else [] := by
  have hold : (bs.zipIdx.filter fun (c, i) => c.RisesAbove ((bs ++ [b]).take i)) =
      bs.zipIdx.filter fun (c, i) => c.RisesAbove (bs.take i) := by
    refine List.filter_congr fun ⟨c, i⟩ hc => ?_
    have hi : i < bs.length := (List.mem_zipIdx' hc).1
    simp only [List.take_append_of_le_length hi.le]
  rw [rising, List.zipIdx_append, List.filter_append, hold, List.map_append, rising]
  congr 1
  by_cases h : b.RisesAbove bs
  · simp [h]
  · simp [h]

theorem mem_of_mem_rising {bs : List Block} {b : Block} (h : b ∈ rising bs) :
    b ∈ bs ∧ 0 < b.height := by
  obtain ⟨⟨c, i⟩, hc, rfl⟩ := List.mem_map.mp h
  obtain ⟨hc, hrise⟩ := List.mem_filter.mp hc
  exact ⟨List.fst_mem_of_mem_zipIdx hc, (of_decide_eq_true hrise).1⟩

theorem rising_ascending (bs : List Block) :
    (rising bs).Pairwise (·.height < ·.height) := by
  induction bs using List.reverseRecOn with
  | nil => exact List.Pairwise.nil
  | append_singleton bs b ih =>
    rw [rising_concat]
    split_ifs with h
    · refine List.pairwise_append.mpr ⟨ih, List.pairwise_singleton _ b, fun c hc d hd => ?_⟩
      obtain rfl := List.mem_singleton.mp hd
      exact h.2 c (mem_of_mem_rising hc).1
    · rwa [List.append_nil]

/-- The height of the last block that rises, zero if there is none. -/
def latestHeight (bs : List Block) : Nat := (((rising bs).getLast?).map (·.height)).getD 0

variable {bs : List Block} {b : Block}

theorem latestHeight_concat :
    latestHeight (bs ++ [b]) = if b.RisesAbove bs then b.height else latestHeight bs := by
  rw [latestHeight, rising_concat]
  split_ifs with h
  · rw [List.getLast?_concat, Option.map_some, Option.getD_some]
  · rw [List.append_nil, latestHeight]

theorem le_latestHeight (bs : List Block) : ∀ b ∈ bs, b.height ≤ latestHeight bs := by
  induction bs using List.reverseRecOn with
  | nil => simp
  | append_singleton bs c ih =>
    rw [latestHeight_concat, List.forall_mem_append, List.forall_mem_singleton]
    split_ifs with hc
    · exact ⟨fun b hb => (hc.2 b hb).le, le_rfl⟩
    · refine ⟨ih, ?_⟩
      by_contra hlt
      -- a block above the greatest height rises
      have hlt := Nat.not_le.mp hlt
      exact hc ⟨Nat.zero_lt_of_lt hlt, fun b hb => (ih b hb).trans_lt hlt⟩

theorem Block.risesAbove_iff : b.RisesAbove bs ↔ latestHeight bs < b.height := by
  constructor
  · rintro ⟨hpos, habove⟩
    rw [latestHeight]
    cases hlast : (rising bs).getLast? with
    | none => exact hpos
    | some c => exact habove c (mem_of_mem_rising (List.mem_of_getLast? hlast)).1
  · intro hlt
    exact ⟨Nat.zero_lt_of_lt hlt, fun c hc => (le_latestHeight bs c hc).trans_lt hlt⟩

/-- The latest height is that of the last block that rises, if there is one. -/
theorem exists_getLast?_rising {P : Nat → Prop} :
    (∃ b ∈ (rising bs).getLast?, P b.height) ↔ 0 < latestHeight bs ∧ P (latestHeight bs) := by
  rw [latestHeight]
  cases hlast : (rising bs).getLast? with
  | none => simp
  | some b =>
    have hpos := (mem_of_mem_rising (List.mem_of_getLast? hlast)).2
    simp [hpos]

end Liveness
