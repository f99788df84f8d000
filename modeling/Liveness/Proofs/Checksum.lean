import Mathlib.Data.List.Induction
import Mathlib.Logic.Function.Iterate
import Mathlib.Tactic.IntervalCases
import Liveness.Bech32

/-!
# The checksum of a Bech32 text

The register is linear over the bits. Six words that enter it after all others are added to what
six zeros would leave, so the checksum is the one choice of six words that leaves the residue.
-/

namespace Liveness.Bech32

variable {a b r : BitVec 30} {w : Word} {ws : List Word}

/-! ## Linearity -/

/-- The bits that leave the register act one by one. -/
theorem foldl_feedback (taps : List (BitVec 30 × Nat)) (x y a b : BitVec 30) :
    taps.foldl (fun acc (g, i) => if (x ^^^ y).getLsbD (25 + i) then acc ^^^ g else acc)
        (a ^^^ b) =
      taps.foldl (fun acc (g, i) => if x.getLsbD (25 + i) then acc ^^^ g else acc) a ^^^
        taps.foldl (fun acc (g, i) => if y.getLsbD (25 + i) then acc ^^^ g else acc) b := by
  induction taps generalizing a b with
  | nil => rfl
  | cons tap taps ih =>
    obtain ⟨g, i⟩ := tap
    simp only [List.foldl_cons, BitVec.getLsbD_xor]
    have hcancel : a ^^^ g ^^^ (b ^^^ g) = a ^^^ b := by
      rw [BitVec.xor_assoc, BitVec.xor_comm b g, ← BitVec.xor_assoc g, BitVec.xor_self,
        BitVec.zero_xor]
    cases x.getLsbD (25 + i) <;> cases y.getLsbD (25 + i)
    · simpa using ih a b
    · simpa [BitVec.xor_assoc] using ih a (b ^^^ g)
    · have hswap : a ^^^ b ^^^ g = a ^^^ g ^^^ b := by
        rw [BitVec.xor_assoc, BitVec.xor_comm b g, ← BitVec.xor_assoc]
      simpa [hswap] using ih (a ^^^ g) b
    · simpa [hcancel] using ih (a ^^^ g) (b ^^^ g)

theorem feedback_xor (a b : BitVec 30) : feedback (a ^^^ b) = feedback a ^^^ feedback b := by
  have h := foldl_feedback generators.zipIdx a b 0#30 0#30
  rwa [BitVec.xor_zero] at h

theorem feedback_of_lt (h : r.toNat < 2 ^ 25) : feedback r = 0#30 := by
  have hbit : ∀ i, r.getLsbD (25 + i) = false := fun i =>
    Nat.testBit_lt_two_pow (Nat.lt_of_lt_of_le h (Nat.pow_le_pow_right (by decide) (by omega)))
  simp [feedback, hbit, generators]

/-- The register after a zero. -/
def advance (r : BitVec 30) : BitVec 30 := r <<< 5 ^^^ feedback r

theorem advance_xor (a b : BitVec 30) : advance (a ^^^ b) = advance a ^^^ advance b := by
  rw [advance, advance, advance, feedback_xor, BitVec.shiftLeft_xor_distrib]
  ac_rfl

theorem shiftIn_eq (r : BitVec 30) (w : Word) : shiftIn r w = advance r ^^^ w.setWidth 30 := by
  rw [shiftIn, advance]
  ac_rfl

/-! ## Words that enter after others -/

/-- The words side by side. -/
def side (ws : List Word) : BitVec 30 := ws.foldl (fun r w => r <<< 5 ^^^ w.setWidth 30) 0#30

theorem foldl_shiftIn (r : BitVec 30) (ws : List Word) :
    ws.foldl shiftIn r = advance^[ws.length] r ^^^ ws.foldl shiftIn 0#30 := by
  induction ws using List.reverseRecOn with
  | nil => simp
  | append_singleton ws w ih =>
    rw [List.foldl_append, List.foldl_append, List.length_append, List.length_singleton,
      Function.iterate_succ_apply', List.foldl_cons, List.foldl_nil, List.foldl_cons,
      List.foldl_nil, shiftIn_eq, shiftIn_eq, ih, advance_xor, BitVec.xor_assoc]

theorem side_concat (ws : List Word) (w : Word) :
    side (ws ++ [w]) = side ws <<< 5 ^^^ w.setWidth 30 := by
  rw [side, side, List.foldl_append, List.foldl_cons, List.foldl_nil]

theorem side_lt (h : ws.length ≤ 5) : (side ws).toNat < 2 ^ (5 * ws.length) := by
  induction ws using List.reverseRecOn with
  | nil => decide
  | append_singleton ws w ih =>
    rw [List.length_append, List.length_singleton] at h ⊢
    have hlt := ih (by omega)
    have hshift : (side ws <<< 5).toNat = (side ws).toNat * 32 := by
      rw [BitVec.toNat_shiftLeft, Nat.shiftLeft_eq, Nat.mod_eq_of_lt]
      calc (side ws).toNat * 2 ^ 5 < 2 ^ (5 * ws.length) * 2 ^ 5 :=
            Nat.mul_lt_mul_of_pos_right hlt (by decide)
        _ = 2 ^ (5 * ws.length + 5) := (Nat.pow_add ..).symm
        _ ≤ 2 ^ 30 := Nat.pow_le_pow_right (by decide) (by omega)
    have hword : (w.setWidth 30).toNat < 2 ^ (5 * (ws.length + 1)) := by
      rw [BitVec.toNat_setWidth, Nat.mod_eq_of_lt (Nat.lt_trans w.isLt (by decide))]
      exact Nat.lt_of_lt_of_le w.isLt (Nat.pow_le_pow_right (by decide) (by omega))
    rw [side_concat, BitVec.toNat_xor, hshift]
    refine Nat.xor_lt_two_pow ?_ hword
    rw [Nat.mul_add, Nat.mul_one, Nat.pow_add]
    exact Nat.mul_lt_mul_of_pos_right hlt (by decide)

/-- Up to six words stand side by side in an empty register. -/
theorem foldl_shiftIn_zero (h : ws.length ≤ 6) : ws.foldl shiftIn 0#30 = side ws := by
  induction ws using List.reverseRecOn with
  | nil => rfl
  | append_singleton ws w ih =>
    rw [List.length_append, List.length_singleton] at h
    have hlt : (side ws).toNat < 2 ^ 25 :=
      Nat.lt_of_lt_of_le (side_lt (by omega)) (Nat.pow_le_pow_right (by decide) (by omega))
    rw [List.foldl_append, List.foldl_cons, List.foldl_nil, ih (by omega), side_concat, shiftIn_eq,
      advance, feedback_of_lt hlt, BitVec.xor_zero]

/-- The six words of a register. -/
def pieces (r : BitVec 30) : List Word := [25, 20, 15, 10, 5, 0].map fun i => (r >>> i).setWidth 5

theorem side_pieces (r : BitVec 30) : side (pieces r) = r := by
  apply BitVec.eq_of_getLsbD_eq
  intro i hi
  simp only [side, pieces, List.map_cons, List.map_nil, List.foldl_cons, List.foldl_nil,
    BitVec.getLsbD_xor, BitVec.getLsbD_shiftLeft, BitVec.getLsbD_setWidth,
    BitVec.getLsbD_ushiftRight, BitVec.getLsbD_zero]
  interval_cases i <;> simp

theorem pieces_side (h : ws.length = 6) : pieces (side ws) = ws := by
  match ws, h with
  | [a, b, c, d, e, f], _ =>
    simp only [pieces, List.map_cons, List.map_nil, List.cons.injEq, and_true]
    refine ⟨?_, ?_, ?_, ?_, ?_, ?_⟩
    all_goals
      apply BitVec.eq_of_getLsbD_eq
      intro i hi
      simp only [side, List.foldl_cons, List.foldl_nil, BitVec.getLsbD_xor,
        BitVec.getLsbD_shiftLeft, BitVec.getLsbD_setWidth, BitVec.getLsbD_ushiftRight,
        BitVec.getLsbD_zero]
      interval_cases i <;> simp

/-! ## The checksum -/

theorem polymod_append (xs : List Word) (h : ws.length = 6) :
    polymod (xs ++ ws) = advance^[6] (polymod xs) ^^^ side ws := by
  rw [polymod, List.foldl_append, foldl_shiftIn, foldl_shiftIn_zero h.le, h]
  rfl

theorem checksum_eq (v : Variant) (hrp : List Char) (words : List Word) :
    checksum v hrp words =
      pieces (advance^[6] (polymod (expandHrp hrp ++ words)) ^^^ v.residue) := by
  have hzeros : side (List.replicate 6 0#5) = 0#30 := by decide
  rw [checksum, polymod_append _ (by simp), hzeros, BitVec.xor_zero]
  rfl

@[simp] theorem length_checksum (v : Variant) (hrp : List Char) (words : List Word) :
    (checksum v hrp words).length = 6 := rfl

/-- Six words complete a text exactly if they are its checksum. -/
theorem polymod_eq_residue_iff (v : Variant) (hrp : List Char) (words : List Word)
    (h : ws.length = 6) :
    polymod (expandHrp hrp ++ (words ++ ws)) = v.residue ↔ ws = checksum v hrp words := by
  rw [← List.append_assoc, polymod_append _ h, checksum_eq]
  generalize advance^[6] (polymod (expandHrp hrp ++ words)) = r
  have hcancel : r ^^^ (r ^^^ v.residue) = v.residue := by
    rw [← BitVec.xor_assoc, BitVec.xor_self, BitVec.zero_xor]
  constructor
  · intro hside
    rw [← hside, ← BitVec.xor_assoc, BitVec.xor_self, BitVec.zero_xor, pieces_side h]
  · rintro rfl
    rw [side_pieces, hcancel]

theorem variant?_eq_some_iff (v : Variant) (hrp : List Char) (words : List Word)
    (h : ws.length = 6) :
    variant? hrp (words ++ ws) = some v ↔ ws = checksum v hrp words := by
  rw [← polymod_eq_residue_iff v hrp words h, variant?]
  generalize polymod (expandHrp hrp ++ (words ++ ws)) = residue
  have hne : Variant.bech32.residue ≠ Variant.bech32m.residue := by decide
  constructor
  · intro hsome
    split_ifs at hsome with hfirst hsecond
    · rw [← Option.some.inj hsome, hfirst]
    · rw [← Option.some.inj hsome, hsecond]
  · rintro rfl
    cases v with
    | bech32 => simp
    | bech32m => simp [hne.symm]

end Liveness.Bech32
