import Liveness.Proofs.Doubling

/-!
# Rounded products

A product of two numbers is rounded to a significand of 53 bits, by at most half of the last of
them. So it is decided up to that half what a product reaches when it is cut to whole milliseconds.
The lemmas read this off how the significand is shifted bit by bit.
-/

namespace Liveness

open Float.Model Float.Model.UnpackedFloat

namespace Binary64

variable {m n k t : Nat} {e : Int}

/-! ## Shifting out bits -/

/-- The significand, and the two bits kept beside it, tell what is left of `n` without its last `k`
bits. -/
def Shifted (n k : Nat) (em : ExtendedMantissa) : Prop :=
  ∃ r, n = em.mantissa * 2 ^ k + r ∧ r < 2 ^ k ∧ (em.roundBit = true ↔ 2 ^ k ≤ 2 * r) ∧
    (em.stickyBit = true ↔ r ≠ 0 ∧ 2 * r ≠ 2 ^ k)

theorem Shifted.shiftRightOne {em : ExtendedMantissa} (h : Shifted n k em) :
    Shifted n (k + 1) em.shiftRightOne := by
  obtain ⟨r, hn, hr, hround, hsticky⟩ := h
  have hpow : 2 ^ (k + 1) = 2 * 2 ^ k := Nat.pow_succ'
  have hor : (em.roundBit || em.stickyBit) = true ↔ r ≠ 0 := by
    rw [Bool.or_eq_true, hround, hsticky]
    omega
  have hhalf : em.mantissa / 2 * 2 ^ (k + 1) = em.mantissa / 2 * 2 * 2 ^ k := by rw [hpow]; ring
  rw [Shifted]
  simp only [ExtendedMantissa.shiftRightOne, hor, hhalf]
  rcases Nat.mod_two_eq_zero_or_one em.mantissa with hbit | hbit
  · have heven : em.mantissa / 2 * 2 = em.mantissa := by omega
    rw [heven, hbit, hpow]
    exact ⟨r, hn, by omega, by simp; omega, by omega⟩
  · have hodd : em.mantissa * 2 ^ k = em.mantissa / 2 * 2 * 2 ^ k + 2 ^ k := by
      rw [← Nat.succ_mul]
      congr 1
      omega
    rw [hbit, hpow]
    exact ⟨2 ^ k + r, by omega, by omega, by simp, by omega⟩

theorem shifted_shiftRight (n k : Nat) :
    Shifted n k ((⟨n, false, false⟩ : ExtendedMantissa) >>> k) := by
  induction k with
  | zero => exact ⟨0, by simp [HShiftRight.hShiftRight, Nat.repeat]⟩
  | succ k ih => exact ih.shiftRightOne

theorem mantissa_shiftRight (n k : Nat) :
    ((⟨n, false, false⟩ : ExtendedMantissa) >>> k).mantissa = n / 2 ^ k := by
  obtain ⟨r, hn, hr, -⟩ := shifted_shiftRight n k
  exact (Nat.div_eq_of_lt_le (by omega) (by rw [Nat.succ_mul]; omega)).symm

/-- The two numbers are at most half of `2 ^ k` apart. -/
def Close (k n m : Nat) : Prop := 2 * n ≤ 2 * m + 2 ^ k ∧ 2 * m ≤ 2 * n + 2 ^ k

theorem Shifted.close {em : ExtendedMantissa} (h : Shifted n k em) :
    Close k n (em.roundedMantissa * 2 ^ k) := by
  obtain ⟨r, rfl, hr, hround, hsticky⟩ := h
  obtain ⟨m, round, sticky⟩ := em
  have hpow : 0 < 2 ^ k := Nat.two_pow_pos k
  have hup : (m + 1) * 2 ^ k = m * 2 ^ k + 2 ^ k := Nat.succ_mul m _
  rcases round with _ | _ <;> rcases sticky with _ | _ <;>
    simp only [Bool.false_eq_true, false_iff, true_iff] at hround hsticky <;>
    simp only [Close, ExtendedMantissa.roundedMantissa, ExtendedMantissa.accuracy,
      Accuracy.roundToNearestEven]
  · omega
  · omega
  · rcases Nat.mod_two_eq_zero_or_one m with hbit | hbit <;> rw [hbit] <;>
      simp only [add_zero, hup] <;> omega
  · rw [hup]
    omega

/-! ## Rounding -/

/-- A number with more than 53 bits loses the last ones. -/
theorem shiftToTargetExponent_of_le (hn : 2 ^ 52 ≤ n) (he : -1074 ≤ e) :
    shiftToTargetExponent Format.binary64 n e .exact =
      ((⟨n, false, false⟩ : ExtendedMantissa) >>> (n.log2 - 52), e + (n.log2 - 52 : Nat)) := by
  have hlog : 52 ≤ n.log2 := (Nat.le_log2 (by omega)).mpr hn
  have htarget : Format.binary64.targetExponent (totalExponent n e) = e + (n.log2 - 52 : Nat) := by
    simp only [Format.targetExponent, totalExponent, Format.mantissaBits, Format.minExponent]
    norm_num
    omega
  have hshift : (e + ((n.log2 - 52 : Nat) : Int) - e).toNat = n.log2 - 52 := by omega
  simp only [shiftToTargetExponent, htarget, shiftToExponent, hshift,
    ExtendedMantissa.ofMantissaAndAccuracy]

/-- Rounding leads to a significand of 53 bits that is close to the number. -/
theorem exists_round (hn : 2 ^ 52 ≤ n) (he : -1074 ≤ e) :
    ∃ m f, ∃ hle : 2 ^ 52 ≤ m, m < 2 ^ 53 ∧ n.log2 - 52 ≤ f ∧ Close (n.log2 - 52) n (m * 2 ^ f) ∧
      roundWithAccuracy Format.binary64 .positive n e .exact =
        .finite .positive m (e + f) (Nat.lt_of_lt_of_le (Nat.two_pow_pos 52) hle) := by
  have hlog : 52 ≤ n.log2 := (Nat.le_log2 (by omega)).mpr hn
  obtain ⟨k, hk⟩ := Nat.exists_eq_add_of_le hlog
  have hfirst := shiftToTargetExponent_of_le hn he
  have hclose := (shifted_shiftRight n k).close
  rw [hk, Nat.add_sub_cancel_left] at hfirst ⊢
  generalize hq : ((⟨n, false, false⟩ : ExtendedMantissa) >>> k).roundedMantissa = q at hclose
  -- rounding may carry into a bit more than there is room for
  have hlow : 2 ^ 52 * 2 ^ k ≤ n := by
    rw [← Nat.pow_add, ← hk]
    exact Nat.log2_self_le (by omega)
  have hhigh : n < 2 ^ 53 * 2 ^ k := by
    rw [← Nat.pow_add, show 53 + k = n.log2 + 1 by omega]
    exact Nat.lt_log2_self
  have hpow : 0 < 2 ^ k := Nat.two_pow_pos k
  have hqlow : 2 ^ 52 ≤ q := by
    by_contra! hlt
    have hle : (q + 1) * 2 ^ k ≤ 2 ^ 52 * 2 ^ k := Nat.mul_le_mul_right _ hlt
    rw [Nat.succ_mul] at hle
    have := hclose.1
    omega
  have hqhigh : q ≤ 2 ^ 53 := by
    by_contra! hlt
    have hle : (2 ^ 53 + 1) * 2 ^ k ≤ q * 2 ^ k := Nat.mul_le_mul_right _ hlt
    rw [Nat.succ_mul] at hle
    have := hclose.2
    omega
  rcases Nat.lt_or_eq_of_le hqhigh with hlt | rfl
  · have hlogq : q.log2 = 52 := (Nat.log2_eq_iff (by omega)).mpr ⟨hqlow, hlt⟩
    refine ⟨q, k, hqlow, hlt, le_rfl, hclose, ?_⟩
    simp only [roundWithAccuracy, hfirst, hq,
      shiftToTargetExponent_of_log2 hlogq (show -1074 ≤ e + (k : Int) by omega)]
    exact dif_neg (by omega)
  · have hcarry : shiftToTargetExponent Format.binary64 (2 ^ 53) (e + k) .exact =
        (⟨2 ^ 52, false, false⟩, e + (k + 1 : Nat)) := by
      rw [shiftToTargetExponent_of_le (by decide) (by omega), Nat.log2_two_pow]
      refine congrArg₂ _ rfl ?_
      omega
    refine ⟨2 ^ 52, k + 1, le_rfl, by decide, by omega, ?_, ?_⟩
    · rwa [show 2 ^ 52 * 2 ^ (k + 1) = 2 ^ 53 * 2 ^ k by ring]
    · simp only [roundWithAccuracy, hfirst, hq, hcarry]
      exact dif_neg (by decide)

/-! ## Cutting to a whole number -/

theorem roundToInt_positive (m : Nat) (e : Int) :
    roundToInt .positive m e = (m * 2 ^ e.toNat / 2 ^ (-e).toNat : Nat) := by
  have hshift : (0 - (e - (e.toNat : Int))).toNat = (-e).toNat := by omega
  simp only [roundToInt, decreaseExponent, shiftToExponent, ExtendedMantissa.ofMantissaAndAccuracy,
    sub_zero, hshift, mantissa_shiftRight, Nat.shiftLeft_eq, Sign.apply]

/-- What a finite number reaches when it is cut to a whole number. -/
theorem le_toUInt64_iff {x : Float} {hm : 0 < m}
    (hx : x.toModel.unpack = .finite .positive m e hm) (ht : t < Bound.word64) :
    t ≤ x.toUInt64.toNat ↔ t * 2 ^ (-e).toNat ≤ m * 2 ^ e.toNat := by
  rw [toUInt64_eq hx, roundToInt_positive, Int.toNat_natCast,
    ← Nat.le_div_iff_mul_le (Nat.two_pow_pos _)]
  generalize m * 2 ^ e.toNat / 2 ^ (-e).toNat = v
  rw [UInt64.ofNatClamp]
  split
  · rfl
  · rename_i hlarge
    have hbound : Bound.word64 ≤ v := not_lt.mp hlarge
    exact iff_of_true (Nat.le_pred_of_lt ht) (ht.le.trans hbound)

theorem toUInt64_of_infinity {x : Float} (hx : x.toModel.unpack = .infinity .positive) :
    x.toUInt64.toNat = Bound.word64 - 1 := by
  show x.toModel.unpack.toUInt64.toNat = _
  rw [hx]
  rfl

/-! ## Products -/

/-- A number that is too great for its format is infinite. -/
theorem unpack_pack_of_lt {hm : 0 < m} (he : 971 < e) :
    (Float.Model.pack (.finite .positive m e hm)).unpack = .infinity .positive := by
  have hpacked : UnpackedFloat.pack Format.binary64 (.finite .positive m e hm) =
      packedInfinity Format.binary64 .positive := by
    simp only [UnpackedFloat.pack, Format.exponentBias]
    exact if_pos (by omega)
  show UnpackedFloat.unpack Format.binary64 (UnpackedFloat.pack Format.binary64 _) = _
  rw [hpacked]
  rfl

/-- What the product of two numbers reaches when it is cut to a whole number: the significand is
rounded before. -/
theorem exists_product {x y : Float} {f : Int} {hm : 0 < m} {hn : 0 < n}
    (hx : x.toModel.unpack = .finite .positive m e hm)
    (hy : y.toModel.unpack = .finite .positive n f hn) (hmn : 2 ^ 52 ≤ m * n)
    (hef : -1074 ≤ e + f) :
    ∃ p g : Nat, 2 ^ 52 ≤ p ∧ (m * n).log2 - 52 ≤ g ∧
      Close ((m * n).log2 - 52) (m * n) (p * 2 ^ g) ∧
      ∀ t < Bound.word64, t ≤ (x * y).toUInt64.toNat ↔
        t * 2 ^ (-(e + f + g)).toNat ≤ p * 2 ^ (e + f + g).toNat := by
  obtain ⟨p, g, hle, hlt, hg, hclose, hround⟩ := exists_round hmn hef
  have hpos : 0 < p := Nat.lt_of_lt_of_le (Nat.two_pow_pos 52) hle
  have hmul : (x * y).toModel.unpack =
      (Float.Model.pack (.finite .positive p (e + f + g) hpos)).unpack := by
    rw [unpack_mul, hx, hy]
    show (Float.Model.pack (roundWithAccuracy Format.binary64 .positive (m * n) (e + f)
      .exact)).unpack = _
    rw [hround]
  refine ⟨p, g, hle, hg, hclose, fun t ht => ?_⟩
  rcases le_or_gt (e + f + g) 971 with hfits | hgreat
  · exact le_toUInt64_iff (hmul.trans (unpack_pack ⟨hle, hlt, by omega, hfits⟩)) ht
  · -- an infinite product is cut to the greatest word, and the significand is as great
    rw [toUInt64_of_infinity (hmul.trans (unpack_pack_of_lt hgreat))]
    have hwhole : (-(e + f + g)).toNat = 0 := by omega
    have hpow : 2 ^ 12 ≤ 2 ^ (e + f + g).toNat := Nat.pow_le_pow_right (by decide) (by omega)
    refine iff_of_true (Nat.le_pred_of_lt ht) ?_
    calc t * 2 ^ (-(e + f + g)).toNat = t := by rw [hwhole, Nat.pow_zero, Nat.mul_one]
      _ ≤ 2 ^ 52 * 2 ^ 12 := ht.le
      _ ≤ p * 2 ^ (e + f + g).toNat := Nat.mul_le_mul hle hpow

end Binary64

end Liveness
