import Liveness.Proofs.Rounding

/-!
# Waits that grow

A wait that is multiplied is cut to whole milliseconds, so a multiplier above one need not make it
longer. If it makes the first wait longer, it makes every later one longer too, and the waits grow
to the greatest one. If not, all waits are as long as the first one.
-/

namespace Liveness

open Float.Model Float.Model.UnpackedFloat

namespace Binary64

variable {m n d t : Nat} {e : Int}

/-! ## Multipliers above one -/

theorem significand_of_unpack {f : Float.Model} {s : Sign} {hm : 0 < m}
    (h : f.unpack = .finite s m e hm) (he : -1074 < e) : 2 ^ 52 ≤ m ∧ m < 2 ^ 53 := by
  rw [Float.Model.unpack, UnpackedFloat.unpack] at h
  dsimp only at h
  split at h
  · split at h <;> cases h
  · split at h
    · split at h
      · cases h
      · rename_i hzero hmant
        obtain ⟨-, -, rfl⟩ := UnpackedFloat.finite.inj h
        rw [hzero] at he
        simp [Format.exponentBias] at he
    · obtain ⟨-, rfl, -⟩ := UnpackedFloat.finite.inj h
      rw [BitVec.toNat_append, ← Nat.shiftLeft_add_eq_or_of_lt (BitVec.isLt _)]
      have := BitVec.isLt (@unpackMantissa Format.binary64 f.toBits.toBitVec)
      simp at this ⊢
      omega

theorem unpack_lt {x y : Float} (h : x < y) :
    UnpackedFloat.lt x.toModel.unpack y.toModel.unpack = true := by
  have hmodel : x.toModel < y.toModel := of_decide_eq_true h
  exact hmodel

theorem finite_of_one_lt {x : Float} (h : 1.0 < x) :
    x.toModel.unpack = .infinity .positive ∨
      ∃ m e, ∃ hm : 0 < m, x.toModel.unpack = .finite .positive m e hm ∧ 2 ^ 52 ≤ m ∧ m < 2 ^ 53 ∧
        (-52 < e ∨ e = -52 ∧ 2 ^ 52 < m) := by
  have hone : (1.0 : Float).toModel.unpack = .finite .positive (2 ^ 52) (-52) (by decide) := rfl
  have hlt := unpack_lt h
  rw [hone, UnpackedFloat.lt] at hlt
  cases hx : x.toModel.unpack with
  | notANumber =>
    rw [hx] at hlt
    cases hlt
  | infinity s =>
    rw [hx] at hlt
    cases s with
    | negative => cases hlt
    | positive => exact .inl rfl
  | zero s =>
    rw [hx] at hlt
    cases hlt
  | finite s m e hm =>
    rw [hx] at hlt
    cases s with
    | negative => cases hlt
    | positive =>
      have horder : ((compare (-52) e).then (compare (2 ^ 52) m)) = .lt := by
        simpa [UnpackedFloat.compare] using hlt
      rw [Ordering.then_eq_lt, Int.compare_eq_lt, Int.compare_eq_eq, Nat.compare_eq_lt] at horder
      obtain ⟨hle, hlt'⟩ := significand_of_unpack hx (by omega)
      exact .inr ⟨m, e, hm, rfl, hle, hlt', horder.imp_right (.imp_left Eq.symm)⟩

/-- One more than a number, written at the exponent of that number, has no more bits than
allowed. -/
theorem significand_add_le (hlt : d < 2 ^ 53) : significand d + 2 ^ (52 - d.log2) ≤ 2 ^ 53 := by
  have hlog : d.log2 ≤ 52 := by
    rcases Nat.eq_zero_or_pos d with rfl | hpos
    · decide
    · exact Nat.le_of_lt_succ ((Nat.log2_lt hpos.ne').mpr hlt)
  calc significand d + 2 ^ (52 - d.log2) = (d + 1) * 2 ^ (52 - d.log2) := (Nat.succ_mul d _).symm
    _ ≤ 2 ^ (d.log2 + 1) * 2 ^ (52 - d.log2) := Nat.mul_le_mul_right _ Nat.lt_log2_self
    _ = 2 ^ 53 := by
      rw [← Nat.pow_add]
      congr 1
      omega

theorem mul_two_pow_le_iff (a b : Nat) :
    t * 2 ^ (a - b) ≤ m * 2 ^ (b - a) ↔ t * 2 ^ a ≤ m * 2 ^ b := by
  rcases Nat.le_total a b with hab | hab
  · obtain ⟨c, rfl⟩ := Nat.exists_eq_add_of_le hab
    rw [Nat.sub_self_add, Nat.add_sub_cancel_left, Nat.pow_zero, Nat.mul_one, Nat.pow_add,
      Nat.mul_comm (2 ^ a), ← Nat.mul_assoc, Nat.mul_le_mul_right_iff (Nat.two_pow_pos a)]
  · obtain ⟨c, rfl⟩ := Nat.exists_eq_add_of_le hab
    rw [Nat.sub_self_add, Nat.add_sub_cancel_left, Nat.pow_zero, Nat.mul_one, Nat.pow_add,
      Nat.mul_comm (2 ^ b), ← Nat.mul_assoc, Nat.mul_le_mul_right_iff (Nat.two_pow_pos b)]

/-- The product of two significands of 53 bits has 105 bits or one more; rounding drops 52 of them
or one more. -/
theorem product_cases {p g : Nat} (hm : 2 ^ 52 ≤ m) (hm' : m < 2 ^ 53) (hn : 2 ^ 52 ≤ n)
    (hn' : n < 2 ^ 53) (hp : 2 ^ 52 ≤ p) (hg : (m * n).log2 - 52 ≤ g)
    (h : Close ((m * n).log2 - 52) (m * n) (p * 2 ^ g)) :
    (m * n < 2 ^ 105 ∧ 2 ^ 52 ∣ p * 2 ^ g ∧ Close 52 (m * n) (p * 2 ^ g)) ∨
      (2 ^ 105 ≤ m * n ∧ 2 ^ 105 ≤ p * 2 ^ g) := by
  have hlow : 2 ^ 52 * 2 ^ 52 ≤ m * n := Nat.mul_le_mul hm hn
  have hhigh : m * n < 2 ^ 53 * 2 ^ 53 := Nat.mul_lt_mul'' hm' hn'
  rcases Nat.lt_or_ge (m * n) (2 ^ 105) with hlt | hge
  · have hlog : (m * n).log2 = 104 := (Nat.log2_eq_iff (by omega)).mpr ⟨by omega, hlt⟩
    rw [hlog] at hg h
    exact .inl ⟨hlt, (Nat.pow_dvd_pow 2 hg).mul_left p, h⟩
  · have hlog : (m * n).log2 = 105 := (Nat.log2_eq_iff (by omega)).mpr ⟨hge, by omega⟩
    rw [hlog] at hg
    have hpow : 2 ^ 53 ≤ 2 ^ g := Nat.pow_le_pow_right (by decide) hg
    have hround : 2 ^ 52 * 2 ^ 53 ≤ p * 2 ^ g := Nat.mul_le_mul hp hpow
    exact .inr ⟨hge, by omega⟩

/-- A multiplier below two, `j` units of its last bit above one. Rounding to nearest can make up for
half a unit of the last bit of the product. -/
theorem scaleMs_of_below_two {x : Float} {j : Nat} {hpos : 0 < 2 ^ 52 + j}
    (hx : x.toModel.unpack = .finite .positive (2 ^ 52 + j) (-52) hpos) (hj : j < 2 ^ 52)
    (hd : 0 < d) (hlt : d < 2 ^ 53) :
    d ≤ scaleMs d x ∧
      (d < scaleMs d x → 2 ^ 52 * 2 ^ (52 - d.log2) ≤ significand d * j + 2 ^ 51) ∧
      (2 ^ 52 * 2 ^ (52 - d.log2) < significand d * j + 2 ^ 51 → d < scaleMs d x) := by
  have hlog : d.log2 ≤ 52 := Nat.le_of_lt_succ ((Nat.log2_lt hd.ne').mpr hlt)
  obtain ⟨hle, hlt', -, -⟩ := normal_significand hd hlt
  obtain ⟨p, g, hp, hg, hclose, hreach⟩ := exists_product (unpack_ofNat hd hlt) hx
    (Nat.le_trans hle (Nat.le_mul_of_pos_right _ hpos)) (by omega)
  have hcases := product_cases hle hlt' (Nat.le_add_right _ j) (by omega) hp hg hclose
  -- what the product reaches, at the exponent of the exact product
  have hreach' : ∀ t < Bound.word64,
      t ≤ scaleMs d x ↔ t * 2 ^ (52 - d.log2) * 2 ^ 52 ≤ p * 2 ^ g := by
    intro t ht
    have hdown : (-((d.log2 : Int) - 52 + -52 + g)).toNat = 104 - d.log2 - g := by omega
    have hup : ((d.log2 : Int) - 52 + -52 + g).toNat = g - (104 - d.log2) := by omega
    rw [scaleMs, hreach t ht, hdown, hup, mul_two_pow_le_iff, Nat.mul_assoc, ← Nat.pow_add,
      show 52 - d.log2 + 52 = 104 - d.log2 by omega]
  have hself := hreach' d (by simp only [Bound.word64]; omega)
  have hnext := hreach' (d + 1) (by simp only [Bound.word64]; omega)
  have hroom := significand_add_le hlt
  rw [Nat.succ_mul] at hnext
  rw [Nat.succ_le_iff] at hnext
  rw [hself, hnext]
  change _ ∧ ((significand d + _) * _ ≤ _ → _) ∧ (_ → (significand d + _) * _ ≤ _)
  rw [show d * 2 ^ (52 - d.log2) = significand d from rfl]
  rw [Nat.mul_add] at hcases
  simp only [Close] at hcases
  generalize 2 ^ (52 - d.log2) = s at *
  generalize significand d = q at *
  generalize p * 2 ^ g = r at *
  generalize q * j = y at *
  refine ⟨?_, fun h => ?_, fun h => ?_⟩
  all_goals
    rcases hcases with ⟨hlt, ⟨a, rfl⟩, hc⟩ | ⟨hge, hr⟩ <;> omega

/-- A multiplier from two on. -/
theorem lt_scaleMs_of_two_le {x : Float} {hm : 0 < m}
    (hx : x.toModel.unpack = .finite .positive m e hm) (hle : 2 ^ 52 ≤ m) (he : -52 < e)
    (hd : 0 < d) (hlt : d < 2 ^ 53) : d < scaleMs d x := by
  have hlog : d.log2 ≤ 52 := Nat.le_of_lt_succ ((Nat.log2_lt hd.ne').mpr hlt)
  obtain ⟨hle', -, -, -⟩ := normal_significand hd hlt
  have hlow : 2 ^ 52 * 2 ^ 52 ≤ significand d * m := Nat.mul_le_mul hle' hle
  have hbits : 104 ≤ (significand d * m).log2 := (Nat.le_log2 (by omega)).mpr (by omega)
  obtain ⟨p, g, hp, hg, -, hreach⟩ := exists_product (unpack_ofNat hd hlt) hx
    (Nat.le_trans (by decide) hlow) (by omega)
  have hword : 2 ^ (d.log2 + 1) < Bound.word64 :=
    (Nat.pow_le_pow_right (by decide) (Nat.succ_le_succ hlog)).trans_lt (by decide)
  refine Nat.lt_log2_self.trans_le ((hreach _ hword).mpr ?_)
  generalize hexp : (d.log2 : Int) - 52 + e + g = f
  calc 2 ^ (d.log2 + 1) * 2 ^ (-f).toNat = 2 ^ (d.log2 + 1 + (-f).toNat) := (Nat.pow_add ..).symm
    _ ≤ 2 ^ (52 + f.toNat) := Nat.pow_le_pow_right (by decide) (by omega)
    _ = 2 ^ 52 * 2 ^ f.toNat := Nat.pow_add ..
    _ ≤ p * 2 ^ f.toNat := Nat.mul_le_mul_right _ hp

theorem lt_scaleMs_of_infinity {x : Float} (hx : x.toModel.unpack = .infinity .positive)
    (hd : 0 < d) (hlt : d < 2 ^ 53) : d < scaleMs d x := by
  have hmul : (Float.ofNat d * x).toModel.unpack = .infinity .positive := by
    rw [unpack_mul, unpack_ofNat hd hlt, hx]
    show (Float.Model.pack (.infinity .positive)).unpack = _
    rfl
  rw [scaleMs, toUInt64_of_infinity hmul]
  simp only [Bound.word64]
  omega

/-- What half a unit of the last bit lets a number reach, it lets the next number exceed. -/
theorem unit_lt_of_le {j : Nat} (hd : 0 < d) (hj : 0 < j)
    (h : 2 ^ 52 * 2 ^ (52 - d.log2) ≤ significand d * j + 2 ^ 51) (hlt : d + 1 < 2 ^ 53) :
    2 ^ 52 * 2 ^ (52 - (d + 1).log2) < significand (d + 1) * j + 2 ^ 51 := by
  have hlog : (d + 1).log2 ≤ 52 :=
    Nat.le_of_lt_succ ((Nat.log2_lt (Nat.succ_ne_zero d)).mpr hlt)
  have hmono : d.log2 ≤ (d + 1).log2 :=
    (Nat.le_log2 (Nat.succ_ne_zero d)).mpr ((Nat.log2_self_le hd.ne').trans (Nat.le_succ d))
  obtain ⟨c, hc⟩ := Nat.exists_eq_add_of_le hmono
  -- the exponent of the next number may be greater
  have hunit : 2 ^ (52 - d.log2) = 2 ^ c * 2 ^ (52 - (d + 1).log2) := by
    rw [← Nat.pow_add]
    congr 1
    omega
  rw [significand, hunit] at h
  rw [significand]
  have hpos : 0 < 2 ^ (52 - (d + 1).log2) * j := Nat.mul_pos (Nat.two_pow_pos _) hj
  generalize 2 ^ (52 - (d + 1).log2) = s at *
  have hle : 2 ^ 52 * s ≤ d * s * j + 2 ^ 51 := by
    refine Nat.le_of_mul_le_mul_left (c := 2 ^ c) ?_ (Nat.two_pow_pos c)
    calc 2 ^ c * (2 ^ 52 * s) = 2 ^ 52 * (2 ^ c * s) := by ring
      _ ≤ d * (2 ^ c * s) * j + 2 ^ 51 := h
      _ ≤ d * (2 ^ c * s) * j + 2 ^ c * 2 ^ 51 :=
        Nat.add_le_add_left (Nat.le_mul_of_pos_left _ (Nat.two_pow_pos c)) _
      _ = 2 ^ c * (d * s * j + 2 ^ 51) := by ring
  calc 2 ^ 52 * s ≤ d * s * j + 2 ^ 51 := hle
    _ < d * s * j + s * j + 2 ^ 51 := by omega
    _ = (d + 1) * s * j + 2 ^ 51 := by ring

/-- A number above one is infinite, at least two, or between one and two. -/
theorem cases_of_one_lt {x : Float} (h : 1.0 < x) :
    (∀ d, 0 < d → d < 2 ^ 53 → d < scaleMs d x) ∨
      ∃ j, ∃ hpos : 0 < 2 ^ 52 + j, 0 < j ∧ j < 2 ^ 52 ∧
        x.toModel.unpack = .finite .positive (2 ^ 52 + j) (-52) hpos := by
  rcases finite_of_one_lt h with hx | ⟨m, e, hm, hx, hle, hlt, he | ⟨rfl, hgt⟩⟩
  · exact .inl fun d hd hd' => lt_scaleMs_of_infinity hx hd hd'
  · exact .inl fun d hd hd' => lt_scaleMs_of_two_le hx hle he hd hd'
  · obtain ⟨j, rfl⟩ := Nat.exists_eq_add_of_le hle
    exact .inr ⟨j, hm, by omega, by omega, hx⟩

end Binary64

open Binary64

variable {x : Float} {d : Nat}

/-- A multiplier above one makes no wait shorter. -/
theorem le_scaleMs (hx : 1.0 < x) (hd : 0 < d) (hlt : d < 2 ^ 53) : d ≤ scaleMs d x := by
  rcases cases_of_one_lt hx with h | ⟨j, _, -, hj, hu⟩
  · exact (h d hd hlt).le
  · exact (scaleMs_of_below_two hu hj hd hlt).1

/-- If it makes a wait longer, it makes the next longer one longer too. -/
theorem lt_scaleMs_succ (hx : 1.0 < x) (hd : 0 < d) (hlt : d + 1 < 2 ^ 53)
    (h : d < scaleMs d x) : d + 1 < scaleMs (d + 1) x := by
  rcases cases_of_one_lt hx with hall | ⟨j, _, hpos, hj, hu⟩
  · exact hall (d + 1) d.succ_pos hlt
  · have hunit := (scaleMs_of_below_two hu hj hd (Nat.lt_of_succ_lt hlt)).2.1 h
    exact (scaleMs_of_below_two hu hj d.succ_pos hlt).2.2 (unit_lt_of_le hd hpos hunit hlt)

/-! ## No jitter -/

theorem unpack_of_beq_zero (h : (x == 0.0) = true) : ∃ s, x.toModel.unpack = .zero s := by
  have hbeq : UnpackedFloat.beq x.toModel.unpack (.zero .positive) = true := h
  rw [UnpackedFloat.beq] at hbeq
  cases hx : x.toModel.unpack with
  | zero s => exact ⟨s, rfl⟩
  | notANumber =>
    rw [hx] at hbeq
    cases hbeq
  | infinity s =>
    rw [hx] at hbeq
    cases s <;> cases hbeq
  | finite s m e hm =>
    rw [hx] at hbeq
    cases s <;> cases hbeq

theorem scaleMs_half_of_beq_zero (h : (x == 0.0) = true) (hd : 0 < d) (hlt : d < 2 ^ 53) :
    scaleMs d (x * 0.5) = 0 := by
  obtain ⟨s, hx⟩ := unpack_of_beq_zero h
  have hzero : ∀ s, (Float.Model.pack (.zero s)).unpack = .zero s := by
    intro s
    cases s <;> rfl
  have hhalf : (x * 0.5).toModel.unpack = .zero (s * .positive) := by
    have hfactor : (0.5 : Float).toModel.unpack = .finite .positive (2 ^ 52) (-53) (by decide) :=
      rfl
    rw [unpack_mul, hx, hfactor]
    exact hzero _
  have hmul : (Float.ofNat d * (x * 0.5)).toModel.unpack = .zero (.positive * (s * .positive)) := by
    rw [unpack_mul, unpack_ofNat hd hlt, hhalf]
    exact hzero _
  show (Float.ofNat d * (x * 0.5)).toModel.unpack.toUInt64.toNat = 0
  rw [hmul]
  rfl

theorem le_of_one_lt (h : 1.0 < x) : 1.0 ≤ x := by
  have hlt := unpack_lt h
  have hle : UnpackedFloat.le (1.0 : Float).toModel.unpack x.toModel.unpack = true := by
    rw [UnpackedFloat.lt, beq_iff_eq] at hlt
    rw [UnpackedFloat.le, hlt]
    rfl
  have hmodel : (1.0 : Float).toModel ≤ x.toModel := hle
  exact decide_eq_true hmodel

/-! ## All waits -/

namespace Backoff

/-- The sequence after `n` waits. -/
def after (b : Backoff) : Nat → Backoff
  | 0 => b
  | n + 1 => (after b n).next.2

/-- The wait with this number, from zero on. -/
def wait (b : Backoff) (n : Nat) : Nat := (b.after n).next.1

theorem after_succ (b : Backoff) (n : Nat) : b.after (n + 1) = b.next.2.after n := by
  induction n with
  | zero => rfl
  | succ n ih => exact congrArg (·.next.2) ih

theorem take_eq_map_wait (b : Backoff) (n : Nat) : take n b = (List.range n).map b.wait := by
  induction n generalizing b with
  | zero => rfl
  | succ n ih =>
    rw [take, ih, List.range_succ_eq_map, List.map_cons, List.map_map]
    refine congrArg _ (List.map_congr_left fun i _ => ?_)
    rw [Function.comp_apply, wait, wait, after_succ]

end Backoff

namespace RetryConfig

/-- Settings of which one expects waits that grow to the greatest one: a multiplier above one, no
jitter and a first wait of at least a millisecond. -/
structure Rising (c : RetryConfig) : Prop where
  initial_pos : 1 ≤ c.initialMs
  initial_le : c.initialMs ≤ c.maxMs
  max_lt : c.maxMs < 2 ^ 53
  one_lt : 1.0 < c.multiplier
  no_jitter : (c.jitter == 0.0) = true

variable {c : RetryConfig}

/-- One wait. -/
theorem Rising.next_backoff (h : c.Rising) {v : Nat} (hlo : c.initialMs ≤ v) (hhi : v ≤ c.maxMs) :
    ({ c.backoff with current := v } : Backoff).next =
      (v, { c.backoff with current := min (scaleMs v c.multiplier) c.maxMs }) := by
  have hmultiplier : atLeast 1.0 c.multiplier = c.multiplier := if_pos (le_of_one_lt h.one_lt)
  have hjitter : (atLeast 0.0 c.jitter == 0.0) = true := by
    rw [atLeast]
    split
    · exact h.no_jitter
    · rfl
  have hnone := scaleMs_half_of_beq_zero hjitter (Nat.lt_of_lt_of_le h.initial_pos hlo)
    (hhi.trans_lt h.max_lt)
  simp only [Backoff.next, backoff, hmultiplier, hnone, Nat.add_zero]
  rfl

theorem Rising.after_backoff (h : c.Rising) (n : Nat) :
    c.backoff.after n = { c.backoff with current := c.backoff.wait n } ∧
      c.initialMs ≤ c.backoff.wait n ∧ c.backoff.wait n ≤ c.maxMs := by
  suffices ∃ v, c.backoff.after n = { c.backoff with current := v } ∧ c.initialMs ≤ v ∧
      v ≤ c.maxMs by
    obtain ⟨v, hv, hlo, hhi⟩ := this
    have hwait : c.backoff.wait n = v := by rw [Backoff.wait, hv, h.next_backoff hlo hhi]
    rw [hwait]
    exact ⟨hv, hlo, hhi⟩
  induction n with
  | zero => exact ⟨min c.initialMs c.maxMs, rfl, by simp [h.initial_le], Nat.min_le_right _ _⟩
  | succ n ih =>
    obtain ⟨v, hv, hlo, hhi⟩ := ih
    have hgrow : v ≤ scaleMs v c.multiplier :=
      le_scaleMs h.one_lt (Nat.lt_of_lt_of_le h.initial_pos hlo) (hhi.trans_lt h.max_lt)
    refine ⟨min (scaleMs v c.multiplier) c.maxMs, ?_, ?_, Nat.min_le_right _ _⟩
    · rw [Backoff.after, hv, h.next_backoff hlo hhi]
    · exact Nat.le_min.mpr ⟨hlo.trans hgrow, h.initial_le⟩

theorem Rising.wait_zero (h : c.Rising) : c.backoff.wait 0 = c.initialMs := by
  have hstart : c.backoff.current = min c.initialMs c.maxMs := rfl
  have hwait := congrArg Backoff.current (h.after_backoff 0).1
  rw [Backoff.after, hstart, Nat.min_eq_left h.initial_le] at hwait
  exact hwait.symm

/-- Each wait is the product of the one before, up to the greatest one. -/
theorem Rising.wait_succ (h : c.Rising) (n : Nat) :
    c.backoff.wait (n + 1) = min (scaleMs (c.backoff.wait n) c.multiplier) c.maxMs := by
  obtain ⟨hafter, hlo, hhi⟩ := h.after_backoff n
  have hwait := congrArg Backoff.current (h.after_backoff (n + 1)).1
  rw [Backoff.after, hafter, h.next_backoff hlo hhi] at hwait
  exact hwait.symm

/-- If the first wait becomes longer, so does every wait below the greatest one. -/
theorem Rising.wait_lt_succ (h : c.Rising) (hgrow : c.initialMs < scaleMs c.initialMs c.multiplier)
    {n : Nat} (hn : c.backoff.wait n < c.maxMs) : c.backoff.wait n < c.backoff.wait (n + 1) := by
  obtain ⟨-, hlo, -⟩ := h.after_backoff n
  have hlonger : ∀ d, c.initialMs ≤ d → d < c.maxMs → d < scaleMs d c.multiplier := by
    intro d hd
    induction d, hd using Nat.le_induction with
    | base => exact fun _ => hgrow
    | succ d hd ih =>
      intro hlt
      exact lt_scaleMs_succ h.one_lt (Nat.lt_of_lt_of_le h.initial_pos hd) (hlt.trans h.max_lt)
        (ih (Nat.lt_of_succ_lt hlt))
  rw [h.wait_succ]
  exact Nat.lt_min.mpr ⟨hlonger _ hlo hn, hn⟩

/-- Then the greatest wait is reached, after as many waits as it is milliseconds away at most. -/
theorem Rising.wait_eq_max (h : c.Rising) (hgrow : c.initialMs < scaleMs c.initialMs c.multiplier) :
    c.backoff.wait (c.maxMs - c.initialMs) = c.maxMs := by
  have hclimb : ∀ n, min (c.initialMs + n) c.maxMs ≤ c.backoff.wait n := by
    intro n
    induction n with
    | zero => rw [h.wait_zero]; exact Nat.min_le_left _ _
    | succ n ih =>
      rcases Nat.lt_or_eq_of_le (h.after_backoff n).2.2 with hlt | heq
      · have := h.wait_lt_succ hgrow hlt
        omega
      · have hmax : c.maxMs ≤ scaleMs c.maxMs c.multiplier :=
          le_scaleMs h.one_lt (Nat.lt_of_lt_of_le h.initial_pos h.initial_le) h.max_lt
        rw [h.wait_succ, heq, Nat.min_eq_right hmax]
        exact Nat.min_le_right _ _
  have hreach := hclimb (c.maxMs - c.initialMs)
  have hle := (h.after_backoff (c.maxMs - c.initialMs)).2.2
  have := h.initial_le
  omega

/-- If the first wait does not become longer, no wait does. -/
theorem Rising.wait_eq_initial (h : c.Rising)
    (hstay : scaleMs c.initialMs c.multiplier ≤ c.initialMs) (n : Nat) :
    c.backoff.wait n = c.initialMs := by
  have hpos : 0 < c.initialMs := h.initial_pos
  have hsame : scaleMs c.initialMs c.multiplier = c.initialMs :=
    Nat.le_antisymm hstay (le_scaleMs h.one_lt hpos (h.initial_le.trans_lt h.max_lt))
  induction n with
  | zero => exact h.wait_zero
  | succ n ih => rw [h.wait_succ, ih, hsame, Nat.min_eq_left h.initial_le]

/-- Without jitter and with a multiplier above one, no wait is longer than the greatest one, and two
things can happen. If the first wait, multiplied and cut to whole milliseconds, is longer than
before, then each wait below the greatest one is followed by a longer one, until the greatest one is
reached. If not, all waits are as long as the first one. So waits grow as they should exactly if the
first one does, or is the greatest one already. -/
theorem waits_grow_iff (h : c.Rising) :
    (∀ n, Backoff.take n c.backoff = (List.range n).map c.backoff.wait) ∧
    (∀ n, c.backoff.wait n ≤ c.maxMs) ∧
    (((∀ n, c.backoff.wait n < c.maxMs → c.backoff.wait n < c.backoff.wait (n + 1)) ∧
        ∃ n, c.backoff.wait n = c.maxMs) ↔
      c.initialMs = c.maxMs ∨ c.initialMs < scaleMs c.initialMs c.multiplier) ∧
    (c.initialMs < scaleMs c.initialMs c.multiplier →
      c.backoff.wait (c.maxMs - c.initialMs) = c.maxMs) ∧
    (scaleMs c.initialMs c.multiplier ≤ c.initialMs → ∀ n, c.backoff.wait n = c.initialMs) := by
  refine ⟨fun n => c.backoff.take_eq_map_wait n, fun n => (h.after_backoff n).2.2, ?_,
    h.wait_eq_max, h.wait_eq_initial⟩
  constructor
  · rintro ⟨-, n, hn⟩
    by_contra! hnot
    exact hnot.1 ((h.wait_eq_initial hnot.2 n).symm.trans hn)
  · rintro (hmax | hgrow)
    · have hall : ∀ n, c.backoff.wait n = c.maxMs := fun n => by
        obtain ⟨-, hlo, hhi⟩ := h.after_backoff n
        omega
      exact ⟨fun n hn => absurd (hall n) hn.ne, 0, hall 0⟩
    · exact ⟨fun n hn => h.wait_lt_succ hgrow hn, _, h.wait_eq_max hgrow⟩

/-- Waits from ten to a hundred milliseconds, each a tenth longer than the one before. -/
theorem waits_grow_iff_of_tenth :
    let c : RetryConfig := ⟨3, 10, 100, 1.1, 0.0⟩
    c.Rising ∧ c.initialMs < scaleMs c.initialMs c.multiplier ∧ c.backoff.wait 90 = 100 := by
  intro c
  have hrising : c.Rising := ⟨by decide, by decide, by decide, by decide +kernel, by decide +kernel⟩
  have hgrow : c.initialMs < scaleMs c.initialMs c.multiplier := by decide +kernel
  obtain ⟨-, -, -, hreach, -⟩ := waits_grow_iff hrising
  exact ⟨hrising, hgrow, hreach hgrow⟩

/-- Half as much again as a millisecond, cut to whole milliseconds, is a millisecond. -/
theorem waits_stand_still :
    let c : RetryConfig := ⟨3, 1, 2, 1.5, 0.0⟩
    c.Rising ∧ (∀ n, c.backoff.wait n = 1) ∧
      ¬ ∀ n, c.backoff.wait n < c.maxMs → c.backoff.wait n < c.backoff.wait (n + 1) := by
  intro c
  have hrising : c.Rising := ⟨by decide, by decide, by decide, by decide +kernel, by decide +kernel⟩
  have hsame : ∀ n, c.backoff.wait n = 1 := hrising.wait_eq_initial (by decide +kernel)
  refine ⟨hrising, hsame, fun hgrow => ?_⟩
  have hlt := hgrow 0
  rw [hsame, hsame] at hlt
  exact absurd (hlt (by decide)) (by decide)

end RetryConfig

end Liveness
