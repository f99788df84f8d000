import Liveness.Base64
import Liveness.Proofs.Bits

/-!
# Writing and reading Base64

Reading accepts exactly what is written. The symbols of a text are the six-bit words of its bytes,
filled up with zero bits; they come in whole quads but for the last one, which holds two symbols at
least, and how many there are tells how much padding follows.
-/

namespace Liveness.Base64

open Bits

variable {b : UInt8} {x : Symbol} {xs qs ss : List Symbol} {bytes key : List UInt8}
  {read last : LastQuad} {offset : Nat}

/-! ## Alphabet -/

theorem symbol?_symbolByte : ∀ x : Symbol, symbol? (symbolByte x) = some x := by decide

theorem symbolByte_ne_padByte : ∀ x : Symbol, symbolByte x ≠ padByte := by decide

theorem symbol?_eq_some_iff : symbol? b = some x ↔ b = symbolByte x := by
  constructor
  · intro h
    obtain ⟨n, hn, rfl⟩ := Option.map_eq_some_iff.mp h
    obtain ⟨hlt, hget⟩ := getD_of_idxOf? hn padByte
    have hsmall : n < 2 ^ 6 := hlt
    rw [symbolByte, BitVec.toNat_ofNat, Nat.mod_eq_of_lt hsmall, hget]
  · rintro rfl
    exact symbol?_symbolByte x

/-! ## Quads -/

theorem readQuads_eq_ok_iff : readQuads offset bytes = .ok xs ↔ bytes = xs.map symbolByte := by
  induction bytes generalizing offset xs with
  | nil => cases xs <;> simp [readQuads]
  | cons b rest ih =>
    rw [readQuads]
    cases hb : symbol? b with
    | none =>
      cases xs with
      | nil => simp
      | cons x xs =>
        have hno : b ≠ symbolByte x := by
          intro h
          rw [symbol?_eq_some_iff.mpr h] at hb
          cases hb
        simp [hno]
    | some y =>
      rw [symbol?_eq_some_iff] at hb
      subst hb
      cases xs with
      | nil => cases readQuads (offset + 1) rest <;> simp [Except.map]
      | cons x xs =>
        have hsame : symbolByte y = symbolByte x ↔ y = x := by
          constructor
          · intro h
            have hx := symbol?_symbolByte x
            rw [← h, symbol?_symbolByte] at hx
            exact Option.some.inj hx
          · rintro rfl
            rfl
        rw [List.map_cons, List.cons.injEq, hsame, ← ih]
        cases readQuads (offset + 1) rest <;> simp [Except.map]

/-- Symbols with their bytes. -/
def spelled (xs : List Symbol) : List (Symbol × UInt8) := xs.map fun x => (x, symbolByte x)

theorem map_fst_spelled (xs : List Symbol) : (spelled xs).map (·.1) = xs := by
  rw [spelled, List.map_map]
  exact List.map_id xs

/-- What was read of the last quad: more symbols, then padding, which does not begin before the
third place and is not followed by symbols. -/
theorem readLast_eq_ok (h : readLast offset read bytes = .ok last) :
    ∃ xs k, bytes = xs.map symbolByte ++ List.replicate k padByte ∧
      last = ⟨read.symbols ++ spelled xs, read.padding + k⟩ ∧
      (0 < read.padding → xs = []) ∧
      (0 < k → 2 ≤ read.symbols.length + read.padding + xs.length) := by
  induction bytes generalizing read with
  | nil =>
    cases h
    exact ⟨[], 0, rfl, by simp [spelled], fun _ => rfl, fun h0 => absurd h0 (Nat.lt_irrefl 0)⟩
  | cons b rest ih =>
    rw [readLast] at h
    by_cases hb : b = padByte
    · rw [if_pos hb] at h
      by_cases hearly : read.symbols.length + read.padding < 2
      · rw [if_pos hearly] at h
        cases h
      · rw [if_neg hearly] at h
        obtain ⟨xs, k, hrest, hlast, hclosed, -⟩ := ih h
        obtain rfl : xs = [] := hclosed (Nat.succ_pos _)
        refine ⟨[], k + 1, ?_, ?_, fun _ => rfl, fun _ => by omega⟩
        · rw [hb, hrest, List.replicate_succ]
          rfl
        · rw [hlast, Nat.add_right_comm, Nat.add_assoc]
    · rw [if_neg hb] at h
      by_cases hclosed : 0 < read.padding
      · rw [if_pos hclosed] at h
        cases h
      · rw [if_neg hclosed] at h
        cases hx : symbol? b with
        | none =>
          rw [hx] at h
          cases h
        | some x =>
          rw [hx] at h
          obtain ⟨xs, k, hrest, hlast, -, hpad⟩ := ih h
          refine ⟨x :: xs, k, ?_, ?_, fun h0 => absurd h0 hclosed, fun h0 => ?_⟩
          · rw [symbol?_eq_some_iff.mp hx, hrest]
            rfl
          · rw [hlast, symbol?_eq_some_iff.mp hx, List.append_assoc]
            rfl
          · have hplace : 2 ≤ (read.symbols ++ [(x, b)]).length + read.padding + xs.length := hpad h0
            rw [List.length_append, List.length_singleton] at hplace
            rw [List.length_cons]
            omega

theorem readLast_symbols (xs : List Symbol) (bytes : List UInt8) (h : read.padding = 0) :
    readLast offset read (xs.map symbolByte ++ bytes) =
      readLast offset { read with symbols := read.symbols ++ spelled xs } bytes := by
  induction xs generalizing read with
  | nil => simp [spelled]
  | cons x xs ih =>
    have hopen : ¬ 0 < read.padding := by omega
    rw [List.map_cons, List.cons_append, readLast, if_neg (symbolByte_ne_padByte x), if_neg hopen,
      symbol?_symbolByte]
    refine Eq.trans (@ih { read with symbols := read.symbols ++ [(x, symbolByte x)] } h) ?_
    simp [spelled]

theorem readLast_padding (k : Nat) (h : 2 ≤ read.symbols.length + read.padding) :
    readLast offset read (List.replicate k padByte) =
      .ok { read with padding := read.padding + k } := by
  induction k generalizing read with
  | zero => rfl
  | succ k ih =>
    have hlate : ¬ read.symbols.length + read.padding < 2 := by omega
    have hmore : 2 ≤ read.symbols.length + (read.padding + 1) := by omega
    rw [List.replicate_succ, readLast, if_pos rfl, if_neg hlate]
    show readLast offset { read with padding := read.padding + 1 } _ = _
    rw [ih hmore, Nat.add_right_comm, Nat.add_assoc]

theorem readLast_quad (hss : 2 ≤ ss.length) (k : Nat) :
    readLast offset ⟨[], 0⟩ (ss.map symbolByte ++ List.replicate k padByte) =
      .ok ⟨spelled ss, k⟩ := by
  have hlength : (spelled ss).length = ss.length := by rw [spelled, List.length_map]
  rw [readLast_symbols ss _ rfl]
  show readLast offset ⟨[] ++ spelled ss, 0⟩ _ = _
  rw [List.nil_append, readLast_padding k (by show 2 ≤ (spelled ss).length + 0; omega),
    Nat.zero_add]

theorem checkLast_eq_ok_iff {k : Nat} :
    checkLast offset ⟨spelled ss, k⟩ = .ok xs ↔
      xs = ss ∧ 2 ≤ ss.length ∧ (ss.length + k) % 4 = 0 ∧ (toBytes ss).2.any id = false := by
  rw [checkLast]
  simp only [map_fst_spelled]
  by_cases hshort : ss.length < 2
  · rw [if_pos hshort]
    constructor
    · intro h
      cases h
    · rintro ⟨-, hlong, -⟩
      omega
  · rw [if_neg hshort]
    by_cases hfull : (ss.length + k) % 4 ≠ 0
    · rw [if_pos hfull]
      constructor
      · intro h
        cases h
      · rintro ⟨-, -, h, -⟩
        exact absurd h hfull
    · rw [if_neg hfull]
      have hpart : 2 ≤ ss.length ∧ (ss.length + k) % 4 = 0 := by omega
      have hlast : ∃ p, (spelled ss).getLast? = some p := by
        refine ⟨_, List.getLast?_eq_some_getLast (List.ne_nil_of_length_pos ?_)⟩
        rw [spelled, List.length_map]
        omega
      obtain ⟨p, hlast⟩ := hlast
      cases hbits : (toBytes ss).2.any id with
      | true => simp [hlast]
      | false => simp [hpart, eq_comm]

/-! ## Whole texts -/

/-- Symbols with the padding that fills up the last quad. -/
def spell (xs : List Symbol) : List UInt8 :=
  xs.map symbolByte ++ List.replicate ((4 - xs.length % 4) % 4) padByte

theorem encode_eq (bytes : List UInt8) : encode bytes = spell (regroup 6 (byteBits bytes)) := by
  rw [spell, regroup, List.map_map, List.length_map]
  show List.map _ (filled 6 _ _) ++ List.replicate ((4 - (List.map _ (filled 6 _ _)).length % 4) % 4)
    padByte = _
  rw [List.length_map]
  rfl

theorem length_spell (xs : List Symbol) : (spell xs).length = (xs.length + 3) / 4 * 4 := by
  rw [spell, List.length_append, List.length_map, List.length_replicate]
  omega

theorem toBytes_eq_iff {rest : List Bool} :
    toBytes xs = (bytes, rest) ↔ xs.flatMap ofWord = byteBits bytes ++ rest ∧ rest.length < 8 :=
  bytesOf_eq_iff

theorem flatMap_ofWord_eq (xs : List Symbol) :
    xs.flatMap ofWord = byteBits (toBytes xs).1 ++ (toBytes xs).2 ∧ (toBytes xs).2.length < 8 :=
  toBytes_eq_iff.mp rfl

/-- Whole quads leave no bits over. -/
theorem toBytes_append (h : qs.length % 4 = 0) (ss : List Symbol) :
    toBytes (qs ++ ss) = ((toBytes qs).1 ++ (toBytes ss).1, (toBytes ss).2) := by
  obtain ⟨hqs, hshort⟩ := flatMap_ofWord_eq qs
  obtain ⟨hss, hlt⟩ := flatMap_ofWord_eq ss
  have hnone : (toBytes qs).2 = [] := by
    have hlength := congrArg List.length hqs
    rw [length_flatMap_ofWord, List.length_append, length_byteBits] at hlength
    exact List.length_eq_zero_iff.mp (by omega)
  rw [hnone, List.append_nil] at hqs
  refine toBytes_eq_iff.mpr ⟨?_, hlt⟩
  rw [List.flatMap_append, hqs, hss, byteBits, byteBits, byteBits, List.flatMap_append,
    List.append_assoc]

/-- The symbols of bytes are those that carry them with zero bits left over and do not end in the
first symbol of a quad. -/
theorem eq_regroup_iff_toBytes :
    xs = regroup 6 (byteBits key) ↔
      xs.length % 4 ≠ 1 ∧ (toBytes xs).1 = key ∧ (toBytes xs).2.any id = false := by
  rw [eq_regroup_iff (by decide)]
  constructor
  · rintro ⟨pad, hpad, hbits⟩
    have hrest : (List.replicate pad false).length < 8 := by
      rw [List.length_replicate]
      omega
    have hlength := congrArg List.length hbits
    rw [length_flatMap_ofWord, List.length_append, length_byteBits, List.length_replicate]
      at hlength
    rw [toBytes_eq_iff.mpr ⟨hbits, hrest⟩]
    refine ⟨by omega, rfl, by simp⟩
  · rintro ⟨hcount, rfl, hzero⟩
    obtain ⟨hbits, hlt⟩ := flatMap_ofWord_eq xs
    have hrest : (toBytes xs).2 = List.replicate (toBytes xs).2.length false :=
      List.eq_replicate_of_mem fun b hb => by
        simpa using List.any_eq_false.mp hzero b hb
    have hlength := congrArg List.length hbits
    rw [length_flatMap_ofWord, List.length_append, length_byteBits] at hlength
    refine ⟨(toBytes xs).2.length, by omega, ?_⟩
    rw [← hrest]
    exact hbits

/-! ## Reading what was written -/

/-- Where the last quad begins. -/
def lastStart (bytes : List UInt8) : Nat := (bytes.length - 1) / 4 * 4

/-- The text is read quad by quad, and the last one by its own rules. -/
def readParts (bytes : List UInt8) : Except Error (List UInt8) := do
  let quads ← readQuads 0 (bytes.take (lastStart bytes))
  let last ← readLast (lastStart bytes) ⟨[], 0⟩ (bytes.drop (lastStart bytes))
  let symbols ← checkLast (lastStart bytes) last
  return (toBytes (quads ++ symbols)).1

/-- Only a lone last byte may be reported before the text is read. -/
theorem decode_eq_readParts (hne : bytes ≠ []) :
    decode bytes = readParts bytes ∨ bytes.length % 4 = 1 ∧ ∃ e, decode bytes = .error e := by
  have hempty : ¬ bytes.isEmpty = true := by simpa using hne
  rw [decode]
  by_cases hlone : bytes.length % 4 = 1
  · obtain ⟨b, hb⟩ : ∃ b, bytes.getLast? = some b := ⟨_, List.getLast?_eq_some_getLast hne⟩
    rw [if_pos hlone, hb]
    by_cases hbad : (decide (b ≠ padByte) && (symbol? b).isNone) = true
    · exact Or.inr ⟨hlone, .invalidSymbol b (bytes.length - 1), if_pos hbad⟩
    · refine Or.inl ((if_neg hbad).trans ?_)
      exact if_neg hempty
  · rw [if_neg hlone]
    exact Or.inl (if_neg hempty)

theorem readParts_eq_ok_iff :
    readParts bytes = .ok key ↔
      ∃ qs last ss, readQuads 0 (bytes.take (lastStart bytes)) = .ok qs ∧
        readLast (lastStart bytes) ⟨[], 0⟩ (bytes.drop (lastStart bytes)) = .ok last ∧
        checkLast (lastStart bytes) last = .ok ss ∧ (toBytes (qs ++ ss)).1 = key := by
  rw [readParts]
  cases readQuads 0 (bytes.take (lastStart bytes)) with
  | error e => simp [bind, Except.bind]
  | ok qs =>
    cases readLast (lastStart bytes) ⟨[], 0⟩ (bytes.drop (lastStart bytes)) with
    | error e => simp [bind, Except.bind]
    | ok last =>
      cases hcheck : checkLast (lastStart bytes) last with
      | error e => simp [bind, Except.bind, hcheck]
      | ok ss => simp [bind, Except.bind, hcheck, pure, Except.pure]

/-- A text that is read is spelled by the symbols of its bytes. -/
theorem eq_spell_of_readParts (hne : bytes ≠ []) (h : readParts bytes = .ok key) :
    bytes = spell (regroup 6 (byteBits key)) := by
  obtain ⟨qs, last, ss, hquads, hlast, hcheck, rfl⟩ := readParts_eq_ok_iff.mp h
  rw [readQuads_eq_ok_iff] at hquads
  obtain ⟨xs, k, hdrop, rfl, -, -⟩ := readLast_eq_ok hlast
  have hread : checkLast (lastStart bytes) ⟨spelled xs, 0 + k⟩ = .ok ss := hcheck
  obtain ⟨rfl, htwo, hfull, hzero⟩ := checkLast_eq_ok_iff.mp hread
  -- the last quad has four places at most, so it is full
  have hquad : ss.length + k = 4 ∧ qs.length % 4 = 0 := by
    have hpos : 0 < bytes.length := List.length_pos_iff.mpr hne
    have htake := congrArg List.length hquads
    rw [List.length_take, List.length_map] at htake
    have hcount := congrArg List.length hdrop
    rw [List.length_drop, List.length_append, List.length_map, List.length_replicate] at hcount
    rw [lastStart] at hcount htake
    omega
  have hwords : qs ++ ss = regroup 6 (byteBits (toBytes (qs ++ ss)).1) := by
    refine eq_regroup_iff_toBytes.mpr ⟨?_, rfl, ?_⟩
    · rw [List.length_append]
      omega
    · rw [toBytes_append hquad.2]
      exact hzero
  have hpadding : k = (4 - (qs ++ ss).length % 4) % 4 := by
    rw [List.length_append]
    omega
  rw [← hwords, spell, ← hpadding, List.map_append, List.append_assoc, ← hdrop, ← hquads,
    List.take_append_drop]

/-- Where the last quad of a written text begins, its symbols are cut as well. -/
theorem cut_spell (hcount : xs.length % 4 ≠ 1) (hne : xs ≠ []) :
    let n := lastStart (spell xs)
    (spell xs).take n = (xs.take n).map symbolByte ∧
      (spell xs).drop n =
        (xs.drop n).map symbolByte ++ List.replicate ((4 - xs.length % 4) % 4) padByte ∧
      (xs.take n).length % 4 = 0 ∧ 2 ≤ (xs.drop n).length ∧
      ((xs.drop n).length + (4 - xs.length % 4) % 4) % 4 = 0 := by
  intro n
  have hpos : 0 < xs.length := List.length_pos_iff.mpr hne
  have hn : n = ((xs.length + 3) / 4 - 1) * 4 := by
    show lastStart (spell xs) = _
    rw [lastStart, length_spell]
    omega
  clear_value n
  have hcut : ((xs.take n).map symbolByte).length = n := by
    rw [List.length_map, List.length_take]
    omega
  have htext : spell xs = (xs.take n).map symbolByte ++
      ((xs.drop n).map symbolByte ++ List.replicate ((4 - xs.length % 4) % 4) padByte) := by
    rw [← List.append_assoc, ← List.map_append, List.take_append_drop]
    rfl
  rw [htext]
  refine ⟨List.take_left' hcut, List.drop_left' hcut, ?_, ?_, ?_⟩
  · rw [List.length_take]
    omega
  · rw [List.length_drop]
    omega
  · rw [List.length_drop]
    omega

/-- What was written is read in parts. -/
theorem readParts_spell (hcount : xs.length % 4 ≠ 1) (hne : xs ≠ [])
    (hzero : (toBytes xs).2.any id = false) : readParts (spell xs) = .ok (toBytes xs).1 := by
  obtain ⟨htake, hdrop, hwhole, htwo, hfull⟩ := cut_spell hcount hne
  have hparts := toBytes_append hwhole (xs.drop (lastStart (spell xs)))
  rw [List.take_append_drop] at hparts
  rw [hparts] at hzero
  refine readParts_eq_ok_iff.mpr ⟨xs.take (lastStart (spell xs)),
    ⟨spelled (xs.drop (lastStart (spell xs))), (4 - xs.length % 4) % 4⟩,
    xs.drop (lastStart (spell xs)), readQuads_eq_ok_iff.mpr htake, ?_,
    checkLast_eq_ok_iff.mpr ⟨rfl, htwo, hfull, hzero⟩, ?_⟩
  · rw [hdrop]
    exact readLast_quad htwo _
  · rw [List.take_append_drop]

theorem toBytes_nil : toBytes [] = ([], []) := toBytes_eq_iff.mpr ⟨rfl, by decide⟩

theorem spell_eq_nil_iff : spell xs = [] ↔ xs = [] := by
  rw [← List.length_eq_zero_iff, length_spell, ← List.length_eq_zero_iff]
  omega

/-- Reading accepts exactly what is written. -/
theorem decode_eq_ok_iff : decode bytes = .ok key ↔ bytes = encode key := by
  rw [encode_eq]
  constructor
  · intro h
    by_cases hne : bytes = []
    · subst hne
      obtain rfl : [] = key := Except.ok.inj h
      have hnone : [] = regroup 6 (byteBits []) := eq_regroup_iff_toBytes.mpr (by simp [toBytes_nil])
      rw [← hnone]
      rfl
    · rcases decode_eq_readParts hne with hparts | ⟨-, e, he⟩
      · exact eq_spell_of_readParts hne (hparts.symm.trans h)
      · rw [he] at h
        cases h
  · intro h
    obtain ⟨hcount, hkey, hzero⟩ := eq_regroup_iff_toBytes.mp (rfl : _ = regroup 6 (byteBits key))
    generalize regroup 6 (byteBits key) = xs at h hcount hkey hzero
    subst h
    by_cases hne : xs = []
    · subst hne
      rw [toBytes_nil] at hkey
      rw [← hkey]
      rfl
    · have htext : spell xs ≠ [] := mt spell_eq_nil_iff.mp hne
      rcases decode_eq_readParts htext with hparts | ⟨hlone, -⟩
      · rw [hparts, readParts_spell hcount hne hzero, hkey]
      · rw [length_spell] at hlone
        omega

end Liveness.Base64
