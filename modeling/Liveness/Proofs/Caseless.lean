import Mathlib
import Liveness.Text.Case

/-!
# Letters in lower case

Lower case changes the letters `A` to `Z` and nothing else, so it keeps the number of bytes and the
NUL characters of a text. Where one of two texts has no NUL, the comparison that stops there compares
them as a whole.
-/

namespace Liveness.Text

variable {c : Char} {cs : List Char} {a b : String}

/-! ## Letters -/

theorem isUpper_iff : c.isUpper = true ↔ 65 ≤ c.toNat ∧ c.toNat ≤ 90 := by
  simp [Char.isUpper, UInt32.le_iff_toNat_le, ← Char.toNat_val]

theorem isLower_iff : c.isLower = true ↔ 97 ≤ c.toNat ∧ c.toNat ≤ 122 := by
  simp [Char.isLower, UInt32.le_iff_toNat_le, ← Char.toNat_val]

theorem toLower_of_not_upper (h : c.isUpper = false) : c.toLower = c := by
  rw [Char.toLower, dif_neg]
  simpa [Char.isUpper] using h

theorem toNat_toLower (h : c.isUpper = true) : c.toLower.toNat = c.toNat + 32 := by
  have hc : c.val ≥ 'A'.val ∧ c.val ≤ 'Z'.val := by simpa [Char.isUpper] using h
  have hle : c.val.toNat ≤ 90 := hc.2
  have hroom : c.val.toNat + 32 < 2 ^ 32 := by omega
  rw [Char.toLower, dif_pos hc]
  exact (UInt32.toNat_add ..).trans (Nat.mod_eq_of_lt hroom)

theorem isUpper_toLower (c : Char) : c.toLower.isUpper = false := by
  by_cases h : c.isUpper = true
  · have hlow := toNat_toLower h
    have hc := isUpper_iff.mp h
    rw [Bool.eq_false_iff, Ne, isUpper_iff]
    omega
  · rw [toLower_of_not_upper (by simpa using h)]
    simpa using h

theorem map_toLower (h : ∀ c ∈ cs, c.isUpper = false) : cs.map Char.toLower = cs := by
  have hmap : cs.map Char.toLower = cs.map id :=
    List.map_congr_left fun c hc => toLower_of_not_upper (h c hc)
  rw [hmap, List.map_id]

/-! ## Bytes and NUL characters -/

theorem utf8Size_of_ascii (h : c.toNat < 128) : c.utf8Size = 1 := by
  rw [Char.utf8Size_eq_one_iff, UInt32.le_iff_toNat_le]
  exact Nat.lt_succ_iff.mp h

theorem utf8Size_toLower (c : Char) : c.toLower.utf8Size = c.utf8Size := by
  by_cases h : c.isUpper = true
  · have hc := isUpper_iff.mp h
    have hlow := toNat_toLower h
    rw [utf8Size_of_ascii (by omega), utf8Size_of_ascii (by omega)]
  · rw [toLower_of_not_upper (by simpa using h)]

theorem utf8ByteSize_asciiLower (a : String) : (asciiLower a).utf8ByteSize = a.utf8ByteSize := by
  conv_rhs => rw [← String.ofList_toList (s := a)]
  rw [asciiLower, String.utf8ByteSize_ofList, String.utf8ByteSize_ofList]
  induction a.toList with
  | nil => rfl
  | cons c cs ih =>
    rw [List.map_cons, String.utf8Len_cons, String.utf8Len_cons, ih, utf8Size_toLower]

theorem nul_mem_asciiLower : '\x00' ∈ (asciiLower a).toList ↔ '\x00' ∈ a.toList := by
  have hnul : ∀ c : Char, c.toLower = '\x00' ↔ c = '\x00' := by
    intro c
    by_cases h : c.isUpper = true
    · have hc := isUpper_iff.mp h
      have hlow := toNat_toLower h
      constructor
      · intro heq
        rw [heq] at hlow
        have hz : ('\x00' : Char).toNat = 0 := rfl
        omega
      · rintro rfl
        exact absurd h (by decide)
    · rw [toLower_of_not_upper (by simpa using h)]
  rw [asciiLower, String.toList_ofList, List.mem_map]
  constructor
  · rintro ⟨c, hc, heq⟩
    rwa [(hnul c).mp heq] at hc
  · intro h
    exact ⟨'\x00', h, (hnul _).mpr rfl⟩

theorem beforeNul_of_not_mem (h : '\x00' ∉ a.toList) : beforeNul a = a := by
  have hall : a.toList.takeWhile (· != '\x00') = a.toList := by
    refine List.takeWhile_eq_self_iff.mpr fun c hc => ?_
    simp only [bne_iff_ne]
    rintro rfl
    exact h hc
  rw [beforeNul, hall, String.ofList_toList]

/-- What stands before a NUL is the whole text if it has as many bytes. -/
theorem beforeNul_of_size (h : (beforeNul a).utf8ByteSize = a.utf8ByteSize) : beforeNul a = a := by
  have hparts := List.takeWhile_append_dropWhile (p := (· != '\x00')) (l := a.toList)
  have hrest : String.utf8Len (a.toList.dropWhile (· != '\x00')) = 0 := by
    have hsize : a.utf8ByteSize = String.utf8Len a.toList := by
      rw [← String.utf8ByteSize_ofList, String.ofList_toList]
    rw [hsize, beforeNul, String.utf8ByteSize_ofList] at h
    have hsum := String.utf8Len_append (a.toList.takeWhile (· != '\x00'))
      (a.toList.dropWhile (· != '\x00'))
    rw [hparts] at hsum
    omega
  rw [String.utf8Len_eq_zero.mp hrest, List.append_nil] at hparts
  rw [beforeNul, hparts, String.ofList_toList]

/-- A text without NUL is compared as a whole. -/
theorem caselessToNul_of_not_mem (h : '\x00' ∉ b.toList) :
    caselessToNul a b = caseless a b := by
  rw [Bool.eq_iff_iff, caselessToNul, Bool.and_eq_true, beq_iff_eq, caseless_iff, caseless_iff,
    beforeNul_of_not_mem h]
  constructor
  · rintro ⟨hsize, heq⟩
    have hbefore : beforeNul a = a := by
      refine beforeNul_of_size ?_
      rw [← utf8ByteSize_asciiLower, heq, utf8ByteSize_asciiLower, hsize]
    rwa [hbefore] at heq
  · intro heq
    have ha : '\x00' ∉ a.toList := by
      rwa [← nul_mem_asciiLower, heq, nul_mem_asciiLower]
    rw [beforeNul_of_not_mem ha]
    refine ⟨?_, heq⟩
    rw [← utf8ByteSize_asciiLower, heq, utf8ByteSize_asciiLower]

end Liveness.Text
