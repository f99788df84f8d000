import Mathlib
import Liveness.Backoff

/-!
# Doubling a wait

A wait below `2 ^ 53` milliseconds is a floating-point number, and so is its double, so nothing is
lost when it is doubled.
-/

namespace Liveness

open Float.Model Float.Model.UnpackedFloat

namespace Binary64

/-- A significand of 53 bits, and an exponent in the range of normal numbers. -/
structure Normal (m : Nat) (e : Int) : Prop where
  le : 2 ^ 52 ≤ m
  lt : m < 2 ^ 53
  exponent_ge : -1074 ≤ e
  exponent_le : e ≤ 971

variable {m n k : Nat} {e : Int}

theorem Normal.pos (h : Normal m e) : 0 < m := Nat.lt_of_lt_of_le (by decide) h.le

theorem Normal.log2 (h : Normal m e) : m.log2 = 52 :=
  (Nat.log2_eq_iff h.pos.ne').mpr ⟨h.le, h.lt⟩

/-! ## Rounding what needs no rounding -/

/-- Zero bits are shifted out without a trace. -/
theorem shiftRight_exact (m k : Nat) :
    (⟨m * 2 ^ k, false, false⟩ : ExtendedMantissa) >>> k = ⟨m, false, false⟩ := by
  induction k generalizing m with
  | zero => simp [HShiftRight.hShiftRight, Nat.repeat]
  | succ k ih =>
    have hm : m * 2 ^ (k + 1) = 2 * m * 2 ^ k := by ring
    change ((⟨m * 2 ^ (k + 1), false, false⟩ : ExtendedMantissa) >>> k).shiftRightOne = _
    rw [hm, ih]
    simp [ExtendedMantissa.shiftRightOne]

theorem targetExponent_of_log2 (h : m.log2 = 52) (hlo : -1074 ≤ e + k) :
    Format.binary64.targetExponent (totalExponent (m * 2 ^ k) e) = e + k := by
  have hm : m ≠ 0 := by
    rintro rfl
    simp at h
  have hlog : (m * 2 ^ k).log2 = 52 + k := by
    obtain ⟨hle, hlt⟩ := (Nat.log2_eq_iff hm).mp h
    refine (Nat.log2_eq_iff (Nat.mul_ne_zero hm (Nat.two_pow_pos k).ne')).mpr ⟨?_, ?_⟩
    · rw [Nat.pow_add]
      exact Nat.mul_le_mul_right _ hle
    · rw [show 52 + k + 1 = 52 + 1 + k by omega, Nat.pow_add]
      exact Nat.mul_lt_mul_of_pos_right hlt (Nat.two_pow_pos k)
  simp only [Format.targetExponent, totalExponent, Format.mantissaBits, Format.minExponent, hlog]
  norm_num
  omega

/-- A significand that has its 53 bits is not shifted. -/
theorem shiftToTargetExponent_of_log2 (h : m.log2 = 52) (he : -1074 ≤ e) :
    shiftToTargetExponent Format.binary64 m e .exact = (⟨m, false, false⟩, e) := by
  have ht := targetExponent_of_log2 (k := 0) h (by simpa using he)
  simp only [Nat.pow_zero, Nat.mul_one, Nat.cast_zero, Int.add_zero] at ht
  simp [shiftToTargetExponent, ht, shiftToExponent, ExtendedMantissa.ofMantissaAndAccuracy,
    HShiftRight.hShiftRight, Nat.repeat]

/-- A number with a normal significand and exponent is kept as it is. -/
theorem roundWithAccuracy_of_normal (s : Sign) (h : Normal m (e + k)) :
    roundWithAccuracy Format.binary64 s (m * 2 ^ k) e .exact = .finite s m (e + k) h.pos := by
  have hfirst : shiftToTargetExponent Format.binary64 (m * 2 ^ k) e .exact =
      (⟨m, false, false⟩, e + k) := by
    have hk : (e + (k : Int) - e).toNat = k := by omega
    simp only [shiftToTargetExponent, targetExponent_of_log2 h.log2 h.exponent_ge, shiftToExponent,
      hk, ExtendedMantissa.ofMantissaAndAccuracy, shiftRight_exact]
  have hsecond := shiftToTargetExponent_of_log2 h.log2 h.exponent_ge
  have hround : ExtendedMantissa.roundedMantissa ⟨m, false, false⟩ = m := rfl
  simp only [roundWithAccuracy, hfirst, hround, hsecond]
  exact dif_neg h.pos.ne'

/-! ## Packing and unpacking -/

theorem unpackSign_packComponents (f : Format) (s : Sign) (e : BitVec f.exponentBits)
    (m : BitVec f.mantissaBitsWithoutImplicit) :
    unpackSign (packComponents f s e m) = s.toBitVec := by
  apply BitVec.eq_of_getLsbD_eq
  intro i hi
  obtain rfl : i = 0 := by omega
  simp [unpackSign, packComponents, BitVec.getLsbD_append, BitVec.getElem_append]

/-- Normal numbers go through their 64 bits unchanged. -/
theorem unpack_pack (h : Normal m e) :
    (Float.Model.pack (.finite .positive m e h.pos)).unpack = .finite .positive m e h.pos := by
  obtain ⟨hle, hlt, hlo, hhi⟩ := h
  -- the biased exponent is neither that of zero nor that of infinity
  obtain ⟨b, hb⟩ : ∃ b : Nat, (b : Int) = e + 1075 := ⟨(e + 1075).toNat, by omega⟩
  have hexp : (BitVec.ofNat 11 b).toNat = b := by
    rw [BitVec.toNat_ofNat, Nat.mod_eq_of_lt (by omega)]
  have hzero : BitVec.ofNat 11 b ≠ 0#11 := fun hz => by
    have := congrArg BitVec.toNat hz
    rw [hexp] at this
    simp at this
    omega
  have hinf : BitVec.ofNat 11 b ≠ -1#11 := fun hi => by
    have := congrArg BitVec.toNat hi
    rw [hexp] at this
    simp at this
    omega
  have hmant : (1#1 ++ BitVec.ofNat 52 m).toNat = m := by
    rw [BitVec.toNat_append, ← Nat.shiftLeft_add_eq_or_of_lt (BitVec.isLt _), BitVec.toNat_ofNat]
    simp
    omega
  have hlog : m.log2 = 52 := (Nat.log2_eq_iff (by omega)).mpr ⟨hle, hlt⟩
  have hbias : (e + (1023 : Nat) + (52 : Nat)).toNat = b := by omega
  have hpacked : UnpackedFloat.pack Format.binary64 (.finite .positive m e (by omega)) =
      packComponents Format.binary64 .positive (BitVec.ofNat 11 b) (BitVec.ofNat 52 m) := by
    have hb' : (e + ((2 ^ (11 - 1) - 1 : Nat) : Int) + (52 : Nat)).toNat = b := by omega
    simp only [UnpackedFloat.pack, Format.exponentBias, Format.mantissaBits, hlog, hb']
    rw [if_neg (by omega)]
    simp
  have hback : UnpackedFloat.unpack Format.binary64
      (packComponents Format.binary64 .positive (BitVec.ofNat 11 b) (BitVec.ofNat 52 m)) =
      .finite .positive m e (by omega) := by
    simp only [UnpackedFloat.unpack, unpackMantissa_packComponents, unpackExponent_packComponents,
      unpackSign_packComponents, hinf, hzero, hexp, hmant, Format.exponentBias, ↓reduceIte]
    congr 1
    omega
  show UnpackedFloat.unpack Format.binary64 (UnpackedFloat.pack Format.binary64 _) = _
  rw [hpacked, hback]

/-! ## Natural numbers -/

/-- The significand of a number below `2 ^ 53`. -/
def significand (n : Nat) : Nat := n * 2 ^ (52 - n.log2)

theorem normal_significand (hpos : 0 < n) (hlt : n < 2 ^ 53) :
    Normal (significand n) ((n.log2 : Int) - 52) := by
  have hlog : n.log2 < 53 := (Nat.log2_lt hpos.ne').mpr hlt
  have hsplit : 2 ^ n.log2 * 2 ^ (52 - n.log2) = 2 ^ 52 := by
    rw [← Nat.pow_add]
    congr 1
    omega
  refine ⟨?_, ?_, by omega, by omega⟩
  · calc 2 ^ 52 = 2 ^ n.log2 * 2 ^ (52 - n.log2) := hsplit.symm
      _ ≤ significand n := Nat.mul_le_mul_right _ (Nat.log2_self_le hpos.ne')
  · calc significand n < 2 ^ (n.log2 + 1) * 2 ^ (52 - n.log2) :=
        Nat.mul_lt_mul_of_pos_right Nat.lt_log2_self (Nat.two_pow_pos _)
      _ = 2 ^ 53 := by rw [Nat.pow_succ, Nat.mul_right_comm, hsplit]; rfl

theorem ofNat_eq (hpos : 0 < n) (hlt : n < 2 ^ 53) :
    UnpackedFloat.ofNat Format.binary64 n =
      .finite .positive (significand n) ((n.log2 : Int) - 52)
        (normal_significand hpos hlt).pos := by
  have hlog : n.log2 < 53 := (Nat.log2_lt hpos.ne').mpr hlt
  have hn := normal_significand hpos hlt
  have htarget : Format.binary64.targetExponent (totalExponent n 0) = (n.log2 : Int) - 52 := by
    simp only [Format.targetExponent, totalExponent, Format.mantissaBits, Format.minExponent]
    norm_num
    omega
  have hdec : decreaseExponent n 0 ((n.log2 : Int) - 52) =
      (significand n, (n.log2 : Int) - 52) := by
    have hs : (0 - ((n.log2 : Int) - 52)).toNat = 52 - n.log2 := by omega
    simp only [decreaseExponent, hs, Nat.shiftLeft_eq, significand]
    congr 1
    omega
  have hround := roundWithAccuracy_of_normal (k := 0) (e := (n.log2 : Int) - 52) .positive
    (by simpa using hn)
  simp only [Nat.pow_zero, Nat.mul_one, Nat.cast_zero, Int.add_zero] at hround
  have hcmp : compare (n : Int) 0 = .gt := Int.compare_eq_gt.mpr (by omega)
  simp only [UnpackedFloat.ofNat, UnpackedFloat.ofInt, UnpackedFloat.normalize, hcmp,
    Int.toNat_natCast, UnpackedFloat.round, htarget, hdec, hround]

theorem unpack_mul (x y : Float) : (x * y).toModel.unpack = (Float.Model.pack
    (UnpackedFloat.mul Format.binary64 x.toModel.unpack y.toModel.unpack)).unpack := rfl

/-- The product with a power of two whose significand is `2 ^ 52`. -/
theorem mul_of_normal {x y : Float} {f : Int} (h : Normal m e) (hf : Normal m (e + f + 52))
    (hx : x.toModel.unpack = .finite .positive m e h.pos)
    (hy : y.toModel.unpack = .finite .positive (2 ^ 52) f (by decide)) :
    (x * y).toModel.unpack = .finite .positive m (e + f + 52) hf.pos := by
  have hround := roundWithAccuracy_of_normal (k := 52) (e := e + f) .positive hf
  rw [unpack_mul, hx, hy]
  show (Float.Model.pack (roundWithAccuracy Format.binary64 .positive (m * 2 ^ 52) (e + f)
    .exact)).unpack = _
  rw [hround]
  exact unpack_pack hf

theorem unpack_one : (Float.ofBits 0x3FF0000000000000).toModel.unpack =
    .finite .positive (2 ^ 52) (-52) (by decide) := rfl

theorem unpack_two : (2.0 : Float).toModel.unpack =
    .finite .positive (2 ^ 52) (-51) (by decide) := rfl

theorem unpack_ofNat (hpos : 0 < n) (hlt : n < 2 ^ 53) :
    (Float.ofNat n).toModel.unpack = .finite .positive (significand n) ((n.log2 : Int) - 52)
      (normal_significand hpos hlt).pos := by
  have hn := normal_significand hpos hlt
  have hword : n.toUInt64.toFloat.toModel.unpack =
      .finite .positive (significand n) ((n.log2 : Int) - 52) hn.pos := by
    have hmod : n.toUInt64.toNat = n := by
      simp
      omega
    show (Float.Model.pack (UnpackedFloat.ofNat Format.binary64 n.toUInt64.toNat)).unpack = _
    rw [hmod, ofNat_eq hpos hlt]
    exact unpack_pack hn
  have hfast : Float.ofNat n = n.toUInt64.toFloat * Float.ofBits 0x3FF0000000000000 := by
    show Float.ofScientific n false 0 = _
    rw [Float.ofScientific, dif_pos ⟨hlt, by decide⟩]
    rfl
  rw [hfast]
  have := mul_of_normal (f := -52) hn (by simpa using hn) hword unpack_one
  simpa using this

/-! ## Cutting to a whole number -/

theorem roundToInt_multiple (m k : Nat) : roundToInt .positive m k = (m * 2 ^ k : Nat) := by
  simp [roundToInt, decreaseExponent, shiftToExponent, Nat.shiftLeft_eq, Sign.apply,
    ExtendedMantissa.ofMantissaAndAccuracy, HShiftRight.hShiftRight, Nat.repeat]

theorem roundToInt_fraction (n k : Nat) :
    roundToInt .positive (n * 2 ^ k) (-(k : Int)) = n := by
  have hdec : decreaseExponent (n * 2 ^ k) (-(k : Int)) 0 = (n * 2 ^ k, -(k : Int)) := by
    simp [decreaseExponent]
  have hs : (0 - -(k : Int)).toNat = k := by omega
  simp only [roundToInt, hdec, shiftToExponent, hs, ExtendedMantissa.ofMantissaAndAccuracy,
    shiftRight_exact, Sign.apply]

theorem toUInt64_eq {x : Float} {hm : 0 < m}
    (hx : x.toModel.unpack = .finite .positive m e hm) :
    x.toUInt64 = UInt64.ofNatClamp (roundToInt .positive m e).toNat := by
  show x.toModel.unpack.toUInt64 = _
  rw [hx]
  rfl

theorem toUInt64_of_finite {x : Float} {hm : 0 < m}
    (hx : x.toModel.unpack = .finite .positive m e hm)
    (hn : roundToInt .positive m e = n) (hlt : n < Bound.word64) : x.toUInt64.toNat = n := by
  rw [toUInt64_eq hx, hn, Int.toNat_natCast, UInt64.ofNatClamp,
    dif_pos (by simpa [Bound.word64] using hlt)]
  rfl

end Binary64

open Binary64

theorem scaleMs_two {n : Nat} (h : n ≤ 2 ^ 53) : scaleMs n 2.0 = 2 * n := by
  rcases Nat.eq_zero_or_pos n with rfl | hpos
  · decide +kernel
  · rcases Nat.lt_or_eq_of_le h with hlt | rfl
    · have hlog : n.log2 < 53 := (Nat.log2_lt hpos.ne').mpr hlt
      obtain ⟨hle, hlt', -, -⟩ := normal_significand hpos hlt
      have hdouble := mul_of_normal (f := -51) (normal_significand hpos hlt)
        ⟨hle, hlt', by omega, by omega⟩ (unpack_ofNat hpos hlt) unpack_two
      refine toUInt64_of_finite hdouble ?_ (by simp only [Bound.word64]; omega)
      rcases Nat.lt_or_eq_of_le (Nat.le_of_lt_succ hlog) with hfrac | hwhole
      · have hm : significand n = 2 * n * 2 ^ (51 - n.log2) := by
          rw [significand, show 52 - n.log2 = 51 - n.log2 + 1 by omega, Nat.pow_succ]
          ring
        have he : (n.log2 : Int) - 52 + -51 + 52 = -((51 - n.log2 : Nat) : Int) := by omega
        rw [hm, he, roundToInt_fraction]
      · have hm : significand n = n := by simp [significand, hwhole]
        have he : (n.log2 : Int) - 52 + -51 + 52 = (1 : Nat) := by omega
        rw [hm, he, roundToInt_multiple]
        congr 1
        omega
    · decide +kernel

theorem unpack_zero : (Float.Model.pack (.zero .positive)).unpack = .zero .positive := rfl

/-- Without jitter nothing is added to a wait. -/
theorem scaleMs_no_jitter {n : Nat} (h : n ≤ 2 ^ 53) : scaleMs n (0.0 * 0.5) = 0 := by
  rcases Nat.eq_zero_or_pos n with rfl | hpos
  · decide +kernel
  · rcases Nat.lt_or_eq_of_le h with hlt | rfl
    · have hzero : (Float.ofNat n * (0.0 * 0.5)).toModel.unpack = .zero .positive := by
        have hfactor : ((0.0 : Float) * 0.5).toModel.unpack = .zero .positive := rfl
        rw [unpack_mul, unpack_ofNat hpos hlt, hfactor]
        exact unpack_zero
      show (Float.ofNat n * (0.0 * 0.5)).toModel.unpack.toUInt64.toNat = 0
      rw [hzero]
      rfl
    · decide +kernel

namespace Backoff

/-- Doubling waits up to `max`, the next of which is `current`. -/
def doublingAt (initial max current : Nat) : Backoff :=
  { doubling initial max with current := current }

variable {initial max current : Nat}

theorem next_doublingAt (h : current ≤ 2 ^ 53) :
    (doublingAt initial max current).next =
      (current, doublingAt initial max (min (2 * current) max)) := by
  simp only [next, doublingAt, doubling, scaleMs_two h, scaleMs_no_jitter h]
  rfl

theorem reset_doublingAt :
    (doublingAt initial max current).reset = doublingAt initial max (min initial max) := rfl

end Backoff

end Liveness
