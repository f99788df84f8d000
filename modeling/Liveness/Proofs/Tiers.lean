import Mathlib.Order.Basic
import Mathlib.Tactic.Common
import Mathlib.Tactic.IntervalCases
import Liveness.Proofs.Observe

/-!
# Which misses of a streak are announced

The gate of a miss is computed from the level before it, the level from the counter after it. If
levels and gates fit together, the two cancel out: in a streak against one window exactly the
counters that are gates themselves are announced, each once, whatever level an earlier streak left
behind.
-/

namespace Liveness

/-- Levels and gates fit together for streaks of up to `n` misses against a window. Gates are words
of a machine and cannot grow for ever, so they are only asked to grow as far as the streak goes. -/
structure Calculator.Escalates (m : Calculator) (window : Float) (n : Nat) : Prop where
  /-- A single miss is below the first gate. -/
  two_le : 2 ≤ m.blocksLevel 1 window
  /-- A gate within the streak exceeds the gate before it by two. -/
  apart : ∀ L, 1 ≤ L → m.blocksLevel (L + 1) window ≤ n →
    m.blocksLevel L window + 2 ≤ m.blocksLevel (L + 1) window
  /-- Below a gate the level is at most that of the gate. -/
  level_le : ∀ k L, 1 ≤ k → k ≤ n → 1 ≤ L → k < m.blocksLevel L window → m.alertLevel k window ≤ L
  /-- A count whose level is at most that of a gate does not exceed the gate. -/
  le_gate : ∀ k L, 1 ≤ k → k ≤ n → 1 ≤ L → m.alertLevel k window ≤ L → k ≤ m.blocksLevel L window

namespace Calculator

variable {m : Calculator} {window : Float} {n : Nat}

theorem one_le_alertLevel (m : Calculator) (k : Nat) (window : Float) :
    1 ≤ m.alertLevel k window := by
  rw [alertLevel]
  split_ifs
  · exact le_rfl
  · exact Nat.le_max_right _ _

namespace Escalates

/-- Gates within the streak are two apart, whatever lies between their levels. -/
theorem apart_of_lt (hm : m.Escalates window n) {L M : Nat} (hL : 1 ≤ L) (hLM : L < M)
    (hn : m.blocksLevel M window ≤ n) : m.blocksLevel L window + 2 ≤ m.blocksLevel M window := by
  induction M, hLM using Nat.le_induction with
  | base => exact hm.apart L hL hn
  | succ M hM ih =>
    have hM1 : 1 ≤ M := hL.trans (Nat.le_of_succ_le hM)
    have hstep := hm.apart M hM1 hn
    have hbelow := ih (by omega)
    omega

/-- No gate lets a single miss pass. -/
theorem two_le_gate (hm : m.Escalates window n) (hn : 1 ≤ n) {L : Nat} (hL : 1 ≤ L) :
    2 ≤ m.blocksLevel L window := by
  rcases Nat.lt_or_ge n (m.blocksLevel L window) with h | h
  · omega
  · rcases hL.eq_or_lt with rfl | h1
    · exact hm.two_le
    · have := hm.apart_of_lt le_rfl h1 h
      omega

/-- The gate of the level before a miss divides the counter after it exactly if that counter is a
gate. The counter exceeds the gate by one at most, so the gate itself is the only multiple in reach;
and a gate that is hit cannot lie above that of the level, since gates are two apart. -/
theorem gate_dvd_iff (hm : m.Escalates window n) {k : Nat} (hk : 1 ≤ k) (hkn : k + 1 ≤ n) :
    (k + 1) % m.blocksLevel (m.alertLevel k window) window = 0 ↔
      ∃ L, 1 ≤ L ∧ k + 1 = m.blocksLevel L window := by
  have h1 := m.one_le_alertLevel k window
  have hle := hm.le_gate k _ hk (by omega) h1 le_rfl
  have h2 := hm.two_le_gate (by omega) h1
  constructor
  · intro hdvd
    refine ⟨_, h1, ?_⟩
    have := Nat.le_of_dvd (Nat.succ_pos k) (Nat.dvd_of_mod_eq_zero hdvd)
    rcases Nat.lt_or_ge k (m.blocksLevel (m.alertLevel k window) window) with hlt | hge
    · omega
    · have hmod : (k + 1) % m.blocksLevel (m.alertLevel k window) window = 1 := by
        rw [Nat.le_antisymm hge hle, Nat.add_mod_left, Nat.mod_eq_of_lt (by omega)]
      omega
  · rintro ⟨L, hL, hkL⟩
    have hlevel : m.alertLevel k window ≤ L := hm.level_le k L hk (by omega) hL (by omega)
    rcases hlevel.eq_or_lt with h | h
    · rw [h, hkL, Nat.mod_self]
    · have := hm.apart_of_lt h1 h (by omega)
      omega

end Escalates

end Calculator

namespace Tracking

variable {m : Calculator} {t : Tracking} {height : Nat} {window : Float} {n : Nat}

/-- The tracking after `k` misses in a row from `height` on, outside jail. -/
def afterMisses (m : Calculator) (t : Tracking) (height : Nat) (window : Float) (limit : Nat) :
    Nat → Tracking
  | 0 => t
  | k + 1 =>
    ((afterMisses m t height window limit k).observeBy m (height + k) false false window limit).1

/-- A miss outside jail that the history accepts and that makes the counter `c`. -/
theorem observeBy_miss (m : Calculator) (window : Float) (limit : Nat) {c : Nat}
    (hnew : t.history.accepts ⟨height, false⟩ = true) (hc : t.nextCounter height = c) :
    ∃ history, t.history.push? ⟨height, false⟩ limit = some history ∧
      t.observeBy m height false false window limit =
        (⟨c, m.alertLevel c window, height, history⟩,
          .missed c (m.alertLevel c window)
            (c != 0 && c % m.blocksLevel (max t.level 1) window == 0)) := by
  obtain ⟨history, hp⟩ := History.exists_push hnew limit
  refine ⟨history, hp, ?_⟩
  rw [observeBy_of_push hp, ← hc]
  rfl

/-- In a new streak, `k` misses later, the next height is accepted and makes the counter `k + 1`,
and the level is that of the last counter. -/
theorem afterMisses_ready (m : Calculator) (window : Float) (limit : Nat) (hpos : 1 ≤ height)
    (hnew : t.history.accepts ⟨height, false⟩ = true) (hstart : t.nextCounter height = 1)
    (k : Nat) :
    let t' := afterMisses m t height window limit k
    t'.history.accepts ⟨height + k, false⟩ = true ∧ t'.nextCounter (height + k) = k + 1 ∧
      (k ≠ 0 → t'.level = m.alertLevel k window) := by
  induction k with
  | zero => exact ⟨hnew, hstart, fun h => absurd rfl h⟩
  | succ k ih =>
    obtain ⟨hacc, hnext, -⟩ := ih
    obtain ⟨history, hp, ho⟩ := observeBy_miss m window limit hacc hnext
    intro t'
    have ht' : t' = ⟨k + 1, m.alertLevel (k + 1) window, height + k, history⟩ :=
      congrArg Prod.fst ho
    rw [ht']
    refine ⟨History.accepts_push hp (Nat.lt_succ_self _), ?_, fun _ => rfl⟩
    rw [nextCounter, if_pos ⟨Nat.ne_of_gt (Nat.add_pos_left hpos k), rfl⟩]

/-- In a new streak of `n` misses at consecutive heights, from whatever tracking it starts, the
`k + 1`-st miss is announced exactly if `k + 1` is the gate of some level. The first miss is not. -/
theorem announced_iff_gate (hm : m.Escalates window n) (limit : Nat) (hpos : 1 ≤ height)
    (hnew : t.history.accepts ⟨height, false⟩ = true) (hstart : t.nextCounter height = 1) {k : Nat}
    (hk : k < n) :
    ∃ notify,
      ((afterMisses m t height window limit k).observeBy m (height + k) false false window
        limit).2 = .missed (k + 1) (m.alertLevel (k + 1) window) notify ∧
      (notify = true ↔ ∃ L, 1 ≤ L ∧ k + 1 = m.blocksLevel L window) ∧ (k = 0 → notify = false) := by
  obtain ⟨hacc, hnext, hlevel⟩ := afterMisses_ready m window limit hpos hnew hstart k
  obtain ⟨history, -, ho⟩ := observeBy_miss m window limit hacc hnext
  have hfirst : ∀ L, 1 ≤ L → 1 % m.blocksLevel L window = 1 := fun L hL =>
    Nat.mod_eq_of_lt (hm.two_le_gate (by omega) hL)
  refine ⟨_, congrArg Prod.snd ho, ?_, ?_⟩
  · rcases k with _ | k
    · -- the gate is that of a level from before the streak
      have hgate := hfirst _ (Nat.le_max_right (afterMisses m t height window limit 0).level 1)
      rw [Nat.zero_add, hgate]
      constructor
      · intro h
        exact absurd h (by decide)
      · rintro ⟨L, hL, h⟩
        have := hm.two_le_gate (by omega) hL
        omega
    · rw [hlevel (Nat.succ_ne_zero k), Nat.max_eq_left (m.one_le_alertLevel _ _)]
      simpa using hm.gate_dvd_iff (Nat.succ_pos k) hk
  · rintro rfl
    rw [Nat.zero_add, hfirst _ (Nat.le_max_right _ 1)]
    rfl

/-! ## A window of a hundred blocks -/

end Tracking

/-- The logarithms of the counts up to eight to the base of a hundred, and the powers of a hundred,
for streaks of up to eight misses. -/
def Calculator.hundred : Calculator where
  log _ count :=
    match count with
    | 2 => 0.15051499783199057
    | 3 => 0.23856062735983122
    | 4 => 0.30102999566398114
    | 5 => 0.3494850021680094
    | 6 => 0.38907562519182176
    | 7 => 0.42254902000712835
    | _ => 0.4515449934959717
  power _ tier :=
    match tier with
    | 1 => 2.51188643150958
    | 2 => 6.309573444801933
    | 3 => 15.848931924611133
    | 4 => 39.810717055349734
    | 5 => 100.0
    | _ => 251.18864315095797
  ceil x :=
    let below := x.toUInt64.toFloat
    if below < x then below + 1.0 else below

namespace Calculator

theorem hundred_alertLevel : ∀ k < 9, 1 ≤ k →
    hundred.alertLevel k 100.0 = if k ≤ 2 then 1 else if k ≤ 6 then 2 else 3 := by
  decide +kernel

theorem hundred_gate_one : hundred.blocksLevel 1 100.0 = 3 := by decide +kernel

theorem hundred_gate_two : hundred.blocksLevel 2 100.0 = 7 := by decide +kernel

theorem hundred_gate_high (L : Nat) : 16 ≤ hundred.blocksLevel (L + 3) 100.0 := by
  rcases L with _ | _ | _ | L
  · decide +kernel
  · decide +kernel
  · decide +kernel
  · show 16 ≤ max (hundred.steadyCeil 251.18864315095797).toUInt64.toNat 1
    decide +kernel

theorem hundred_escalates : hundred.Escalates 100.0 8 where
  two_le := by rw [hundred_gate_one]; decide
  apart := by
    intro L hL hle
    rcases L with _ | _ | L
    · omega
    · rw [hundred_gate_one, hundred_gate_two]; decide
    · have : 16 ≤ hundred.blocksLevel (L + 1 + 1 + 1) 100.0 := hundred_gate_high L
      omega
  level_le := by
    intro k L hk hk8 hL hlt
    rw [hundred_alertLevel k (by omega) hk]
    rcases L with _ | _ | _ | L
    · omega
    · rw [hundred_gate_one] at hlt
      split_ifs <;> omega
    · rw [hundred_gate_two] at hlt
      split_ifs <;> omega
    · split_ifs <;> omega
  le_gate := by
    intro k L hk hk8 hL hle
    rw [hundred_alertLevel k (by omega) hk] at hle
    rcases L with _ | _ | _ | L
    · omega
    · rw [hundred_gate_one]
      split_ifs at hle <;> omega
    · rw [hundred_gate_two]
      split_ifs at hle <;> omega
    · have : 16 ≤ hundred.blocksLevel (L + 1 + 1 + 1) 100.0 := hundred_gate_high L
      omega

end Calculator

/-- A streak that begins with the level five of an earlier one: its seventh miss is announced, since
seven is the second gate. -/
theorem Tracking.announced_iff_gate_hundred :
    let t : Tracking := ⟨17, 5, 40, ⟨[⟨39, false⟩, ⟨40, false⟩]⟩⟩
    Calculator.hundred.Escalates 100.0 8 ∧ t.history.accepts ⟨50, false⟩ = true ∧
      t.nextCounter 50 = 1 ∧
      ((afterMisses .hundred t 50 100.0 3 6).observeBy .hundred 56 false false 100.0 3).2 =
        .missed 7 3 true := by
  intro t
  have hm := Calculator.hundred_escalates
  have hnew : t.history.accepts ⟨50, false⟩ = true := by decide
  have hstart : t.nextCounter 50 = 1 := by decide
  obtain ⟨notify, ho, hiff, -⟩ :=
    announced_iff_gate hm 3 (by decide) hnew hstart (show 6 < 8 by decide)
  have htrue : notify = true := hiff.mpr ⟨2, by decide, Calculator.hundred_gate_two.symm⟩
  rw [htrue, Calculator.hundred_alertLevel 7 (by decide) (by decide)] at ho
  exact ⟨hm, hnew, hstart, ho⟩

end Liveness
