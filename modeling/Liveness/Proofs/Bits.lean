import Mathlib.Data.List.Basic
import Mathlib.Tactic.Common
import Liveness.Bech32

/-!
# Cutting bit strings

A word is told by its bits, and a list is cut into pieces of one length in one way only. So a bit
string that is cut into words and filled up with zero bits can be cut anew at other places, and the
words it came from are found again.
-/

namespace Liveness.Bits

/-! ## Bits of a word -/

/-- The value that bits spell in base two, read off from the last one. -/
theorem testBit_foldr (bits : List Bool) (k : Nat) :
    (bits.foldr (fun (b : Bool) n => 2 * n + b.toNat) 0).testBit k = bits.getD k false := by
  induction bits generalizing k with
  | nil => simp
  | cons b rest ih =>
    cases k with
    | zero => cases b <;> simp [Nat.testBit_zero]
    | succ k =>
      have hhalf : (2 * rest.foldr (fun (b : Bool) n => 2 * n + b.toNat) 0 + b.toNat) / 2 =
          rest.foldr (fun (b : Bool) n => 2 * n + b.toNat) 0 := by
        cases b
        · simp
        · simp
          omega
      rw [List.foldr_cons, Nat.testBit_succ, hhalf, ih, List.getD_cons_succ]

theorem ofWord_toWord {w : Nat} {bits : List Bool} (h : bits.length = w) :
    ofWord (toWord w bits) = bits := by
  subst h
  refine List.ext_getElem (length_ofWord _) fun i hi hi' => ?_
  have hrev : bits.length - 1 - i < bits.reverse.length := by
    rw [List.length_reverse]
    omega
  simp only [ofWord, List.getElem_map, List.getElem_range, BitVec.getMsbD_eq_getLsbD, toWord,
    BitVec.getLsbD_ofNat, List.foldl_eq_foldr_reverse, testBit_foldr]
  have hback : bits.length - 1 - (bits.length - 1 - i) = i := by omega
  have hlow : bits.length - 1 - i < bits.length := by omega
  simp only [hi', hlow, decide_true, Bool.true_and]
  rw [List.getD_eq_getElem?_getD, List.getElem?_eq_getElem hrev, Option.getD_some]
  simp only [List.getElem_reverse, hback]

theorem ofWord_injective {w : Nat} {x y : BitVec w} (h : ofWord x = ofWord y) : x = y := by
  refine BitVec.eq_of_getMsbD_eq fun i hi => ?_
  have hget := List.map_inj_left.mp h i (List.mem_range.mpr hi)
  exact hget

theorem toWord_ofWord {w : Nat} (x : BitVec w) : toWord w (ofWord x) = x :=
  ofWord_injective (ofWord_toWord (length_ofWord x))

/-! ## Cutting -/

variable {α : Type} {n : Nat} {l rest : List α} {pieces : List (List α)}

/-- The pieces have the length asked for, and the rest is too short for one more. -/
structure Cut (n : Nat) (pieces : List (List α)) (rest : List α) : Prop where
  length_eq : ∀ piece ∈ pieces, piece.length = n
  length_lt : rest.length < n

theorem chunks_append {piece : List α} (hn : 0 < n) (h : piece.length = n) (l : List α) :
    chunks n (piece ++ l) = (piece :: (chunks n l).1, (chunks n l).2) := by
  have hle : 0 < n ∧ n ≤ (piece ++ l).length := ⟨hn, by rw [List.length_append]; omega⟩
  rw [chunks, dif_pos hle, ← h, List.drop_left, List.take_left]

theorem chunks_of_cut (h : Cut n pieces rest) :
    chunks n (pieces.flatten ++ rest) = (pieces, rest) := by
  have hpos : 0 < n := Nat.lt_of_le_of_lt (Nat.zero_le _) h.length_lt
  obtain ⟨hpieces, hrest⟩ := h
  induction pieces with
  | nil =>
    have hshort : ¬ (0 < n ∧ n ≤ rest.length) := by omega
    rw [List.flatten_nil, List.nil_append, chunks, dif_neg hshort]
  | cons piece pieces ih =>
    obtain ⟨hpiece, hpieces⟩ := List.forall_mem_cons.mp hpieces
    rw [List.flatten_cons, List.append_assoc, chunks_append hpos hpiece, ih hpieces]

theorem cut_chunks (hn : 0 < n) (l : List α) :
    Cut n (chunks n l).1 (chunks n l).2 ∧ (chunks n l).1.flatten ++ (chunks n l).2 = l := by
  fun_induction chunks n l with
  | case1 l hle pieces rest hchunks ih =>
    simp only [hchunks] at ih
    obtain ⟨⟨hpieces, hrest⟩, hl⟩ := ih
    refine ⟨⟨List.forall_mem_cons.mpr ⟨?_, hpieces⟩, hrest⟩, ?_⟩
    · rw [List.length_take]
      omega
    · rw [List.flatten_cons, List.append_assoc, hl, List.take_append_drop]
  | case2 l hle =>
    have hlt : l.length < n := by omega
    exact ⟨⟨by simp, hlt⟩, rfl⟩

/-! ## Words and their bit string -/

theorem flatMap_ofWord_toWord {w : Nat} {pieces : List (List Bool)}
    (h : ∀ piece ∈ pieces, piece.length = w) :
    (pieces.map (toWord w)).flatMap ofWord = pieces.flatten := by
  induction pieces with
  | nil => rfl
  | cons piece pieces ih =>
    obtain ⟨hpiece, hpieces⟩ := List.forall_mem_cons.mp h
    rw [List.map_cons, List.flatMap_cons, List.flatten_cons, ofWord_toWord hpiece, ih hpieces]

theorem map_toWord_ofWord {w : Nat} (ws : List (BitVec w)) :
    (ws.map ofWord).map (toWord w) = ws := by
  rw [List.map_map]
  exact (List.map_congr_left fun x _ => toWord_ofWord x).trans (List.map_id ws)

theorem length_flatMap_ofWord {w : Nat} (ws : List (BitVec w)) :
    (ws.flatMap ofWord).length = w * ws.length := by
  induction ws with
  | nil => rfl
  | cons x ws ih => simp [ih, Nat.mul_add, Nat.add_comm]

/-- Words whose bits are followed by fewer bits than a word has are found again. -/
theorem chunks_flatMap_ofWord {w : Nat} (ws : List (BitVec w)) {rest : List Bool}
    (h : rest.length < w) : chunks w (ws.flatMap ofWord ++ rest) = (ws.map ofWord, rest) := by
  rw [List.flatMap_def]
  refine chunks_of_cut ⟨fun piece hpiece => ?_, h⟩
  obtain ⟨x, -, rfl⟩ := List.mem_map.mp hpiece
  exact length_ofWord x

theorem flatMap_ofWord_injective {w : Nat} (hw : 0 < w) {ws vs : List (BitVec w)}
    (h : ws.flatMap ofWord = vs.flatMap ofWord) : ws = vs := by
  have hnil : ([] : List Bool).length < w := hw
  have hws := chunks_flatMap_ofWord ws hnil
  have hvs := chunks_flatMap_ofWord vs hnil
  rw [h, hvs] at hws
  rw [← map_toWord_ofWord ws, ← map_toWord_ofWord vs, (Prod.mk.inj hws).1]

/-- The pieces of bits, and the rest of them filled up with zero bits. -/
def filled (n : Nat) (pieces : List (List Bool)) (rest : List Bool) : List (List Bool) :=
  if rest.isEmpty then pieces else pieces ++ [rest ++ List.replicate (n - rest.length) false]

theorem filled_of_cut {pieces : List (List Bool)} {rest : List Bool} (h : Cut n pieces rest) :
    (∀ piece ∈ filled n pieces rest, piece.length = n) ∧
      ∃ pad < n, (filled n pieces rest).flatten =
        pieces.flatten ++ rest ++ List.replicate pad false := by
  obtain ⟨hpieces, hrest⟩ := h
  cases rest with
  | nil => exact ⟨hpieces, 0, hrest, by simp [filled]⟩
  | cons b rest =>
    refine ⟨?_, n - (b :: rest).length, Nat.sub_lt (by omega) (by simp), by simp [filled]⟩
    rw [List.length_cons] at hrest
    simp only [filled, List.isEmpty_cons, Bool.false_eq_true, if_false, List.forall_mem_append,
      List.forall_mem_singleton]
    refine ⟨hpieces, ?_⟩
    simp
    omega

/-- The words of width `n` that carry a bit string, the last one filled up with zero bits. -/
def regroup (n : Nat) (bits : List Bool) : List (BitVec n) :=
  (filled n (chunks n bits).1 (chunks n bits).2).map (toWord n)

theorem flatMap_ofWord_regroup (hn : 0 < n) (bits : List Bool) :
    ∃ pad < n, (regroup n bits).flatMap ofWord = bits ++ List.replicate pad false := by
  obtain ⟨hcut, hflat⟩ := cut_chunks hn bits
  obtain ⟨hfilled, pad, hpad, hbits⟩ := filled_of_cut hcut
  rw [hflat] at hbits
  refine ⟨pad, hpad, ?_⟩
  rw [regroup, flatMap_ofWord_toWord hfilled, hbits]

/-- The words of a bit string are the only ones that carry it and at most part of a word of zero
bits more. -/
theorem eq_regroup_iff (hn : 0 < n) {ws : List (BitVec n)} {bits : List Bool} :
    ws = regroup n bits ↔ ∃ pad < n, ws.flatMap ofWord = bits ++ List.replicate pad false := by
  obtain ⟨pad, hpad, hbits⟩ := flatMap_ofWord_regroup hn bits
  constructor
  · rintro rfl
    exact ⟨pad, hpad, hbits⟩
  · rintro ⟨pad', hpad', hbits'⟩
    have hlength := congrArg List.length hbits
    have hlength' := congrArg List.length hbits'
    rw [length_flatMap_ofWord, List.length_append, List.length_replicate] at hlength hlength'
    -- both fill up the same bits to whole words, so they have as many words
    have hcount : ws.length = (regroup n bits).length := by
      rcases Nat.lt_trichotomy ws.length (regroup n bits).length with hlt | heq | hgt
      · have := Nat.mul_le_mul_left n (Nat.succ_le_of_lt hlt)
        rw [Nat.mul_succ] at this
        omega
      · exact heq
      · have := Nat.mul_le_mul_left n (Nat.succ_le_of_lt hgt)
        rw [Nat.mul_succ] at this
        omega
    rw [hcount] at hlength'
    have hsame : pad' = pad := by omega
    refine flatMap_ofWord_injective hn ?_
    rw [hbits, hbits', hsame]

/-! ## Bytes -/

/-- The bits of bytes. -/
def byteBits (bytes : List UInt8) : List Bool := bytes.flatMap fun b => ofWord b.toBitVec

theorem byteBits_eq_flatMap (bytes : List UInt8) :
    byteBits bytes = (bytes.map UInt8.toBitVec).flatMap ofWord := by
  rw [byteBits, List.flatMap_map]

theorem length_byteBits (bytes : List UInt8) : (byteBits bytes).length = 8 * bytes.length := by
  rw [byteBits_eq_flatMap, length_flatMap_ofWord, List.length_map]

/-- The bytes that a bit string spells, and the bits left over. -/
def bytesOf (bits : List Bool) : List UInt8 × List Bool :=
  ((chunks 8 bits).1.map fun b => ⟨toWord 8 b⟩, (chunks 8 bits).2)

theorem bytesOf_eq_iff {bits rest : List Bool} {bytes : List UInt8} :
    bytesOf bits = (bytes, rest) ↔ bits = byteBits bytes ++ rest ∧ rest.length < 8 := by
  constructor
  · intro h
    obtain ⟨⟨hpieces, hrest⟩, hflat⟩ := cut_chunks (by decide : 0 < 8) bits
    obtain ⟨rfl, rfl⟩ := Prod.mk.inj h
    refine ⟨?_, hrest⟩
    rw [byteBits_eq_flatMap, List.map_map]
    refine hflat.symm.trans ?_
    exact congrArg (· ++ (chunks 8 bits).2) (flatMap_ofWord_toWord hpieces).symm
  · rintro ⟨rfl, hrest⟩
    have hback : ((bytes.map UInt8.toBitVec).map ofWord).map (fun b => (⟨toWord 8 b⟩ : UInt8)) =
        bytes := by
      rw [List.map_map, List.map_map]
      refine (List.map_congr_left fun b _ => ?_).trans (List.map_id bytes)
      exact congrArg UInt8.ofBitVec (toWord_ofWord b.toBitVec)
    rw [bytesOf, byteBits_eq_flatMap, chunks_flatMap_ofWord _ hrest, hback]

/-! ## Alphabets -/

/-- A place in an alphabet holds what was looked up. -/
theorem getD_of_idxOf? {α : Type} [BEq α] [LawfulBEq α] {alphabet : List α} {a : α} {i : Nat}
    (h : alphabet.idxOf? a = some i) (other : α) :
    i < alphabet.length ∧ alphabet.getD i other = a := by
  obtain ⟨hlt, hget, -⟩ := List.idxOf?_eq_some_iff.mp h
  refine ⟨hlt, ?_⟩
  rw [List.getD_eq_getElem?_getD, List.getElem?_eq_getElem hlt]
  simpa using hget

end Liveness.Bits

/-! ## Bytes in five-bit words -/

namespace Liveness.Bech32

open Bits

variable {bytes : List UInt8} {ws : List Word}

theorem ofBytes_eq_regroup (bytes : List UInt8) : ofBytes bytes = regroup 5 (byteBits bytes) := rfl

theorem toBytes_eq (ws : List Word) :
    toBytes ws =
      if 5 ≤ (bytesOf (ws.flatMap ofWord)).2.length ||
        (bytesOf (ws.flatMap ofWord)).2.any id then .error .invalidPadding
      else .ok (bytesOf (ws.flatMap ofWord)).1 := rfl

/-- The words of bytes are the only ones that are read as these bytes. -/
theorem toBytes_eq_ok_iff : toBytes ws = .ok bytes ↔ ws = ofBytes bytes := by
  rw [ofBytes_eq_regroup, eq_regroup_iff (by decide)]
  constructor
  · intro h
    obtain ⟨hbits, -⟩ := bytesOf_eq_iff.mp (rfl : bytesOf (ws.flatMap ofWord) = (_, _))
    rw [toBytes_eq] at h
    split at h
    · cases h
    · rename_i hpad
      simp only [Bool.or_eq_true, decide_eq_true_eq, not_or, Bool.not_eq_true] at hpad
      obtain rfl := Except.ok.inj h
      have hzero : (bytesOf (ws.flatMap ofWord)).2 =
          List.replicate (bytesOf (ws.flatMap ofWord)).2.length false :=
        List.eq_replicate_of_mem fun b hb => by
          simpa using List.any_eq_false.mp hpad.2 b hb
      refine ⟨(bytesOf (ws.flatMap ofWord)).2.length, by omega, ?_⟩
      rw [← hzero]
      exact hbits
  · rintro ⟨pad, hpad, hws⟩
    have hrest : (List.replicate pad false).length < 8 := by
      rw [List.length_replicate]
      omega
    have hread := bytesOf_eq_iff.mpr ⟨hws, hrest⟩
    have hzero : ¬ (decide (5 ≤ (List.replicate pad false).length) ||
        (List.replicate pad false).any id) = true := by
      simp
      omega
    rw [toBytes_eq, hread, if_neg hzero]

theorem length_ofBytes (bytes : List UInt8) :
    (ofBytes bytes).length = (8 * bytes.length + 4) / 5 := by
  obtain ⟨pad, hpad, hbits⟩ := flatMap_ofWord_regroup (by decide : 0 < 5) (byteBits bytes)
  have hlength := congrArg List.length hbits
  rw [← ofBytes_eq_regroup, length_flatMap_ofWord, List.length_append, length_byteBits,
    List.length_replicate] at hlength
  omega

end Liveness.Bech32
