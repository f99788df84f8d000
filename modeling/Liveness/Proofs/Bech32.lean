import Mathlib.Data.List.TakeWhile
import Mathlib.Tactic.SplitIfs
import Liveness.Proofs.Bits
import Liveness.Proofs.Caseless
import Liveness.Proofs.Checksum

/-!
# Writing and reading Bech32 texts

A text is read exactly if all its letters have one case and it is written, in lower case, for what
it stands for. So what was written is read back, and a text without upper-case letters is the one
that is written.
-/

namespace Liveness.Bech32

open Text

variable {c : Char} {cs data raw : List Char} {a hrp : String} {seen s : LetterCase} {d : Decoded}
  {v : Variant} {w : Word} {ws : List Word}

/-- The text has no upper-case letter. -/
def NoUpper (a : String) : Prop := ∀ c ∈ a.toList, c.isUpper = false

/-- All letters of the text have the same case. -/
def OneCase (a : String) : Prop := NoUpper a ∨ ∀ c ∈ a.toList, c.isLower = false

/-- The text can be a human-readable part. -/
structure IsHrp (hrp : String) : Prop where
  /-- There is something to read. -/
  ne_nil : hrp.toList ≠ []
  /-- It is not too long. -/
  length_le : hrp.toList.length ≤ 83
  /-- Every character is a printable ASCII character other than the space. -/
  printable : ∀ c ∈ hrp.toList, 33 ≤ c.toNat ∧ c.toNat ≤ 126
  /-- All letters have the same case. -/
  one_case : NoUpper hrp ∨ ∀ c ∈ hrp.toList, c.isLower = false

/-! ## Letters -/

theorem word?_letter : ∀ w : Word, word? (letter w) = some w := by decide

theorem letter_plain : ∀ w : Word,
    (letter w).isUpper = false ∧ (letter w).toNat < 128 ∧ letter w ≠ '1' := by decide

theorem letter_of_word? (h : word? c = some w) : letter w = c.toLower := by
  obtain ⟨n, hn, rfl⟩ := Option.map_eq_some_iff.mp h
  obtain ⟨hlt, hget⟩ := Bits.getD_of_idxOf? hn 'q'
  have hsmall : n < 2 ^ 5 := hlt
  rw [letter, BitVec.toNat_ofNat, Nat.mod_eq_of_lt hsmall, hget]

theorem toLower_toLower (c : Char) : c.toLower.toLower = c.toLower :=
  toLower_of_not_upper (isUpper_toLower c)

theorem word?_eq_some_iff : word? c = some w ↔ c.toLower = letter w := by
  constructor
  · intro h
    exact (letter_of_word? h).symm
  · intro h
    have hword := word?_letter w
    rw [← h, word?, toLower_toLower] at hword
    exact hword

theorem lt_of_toLower_eq_letter (h : c.toLower = letter w) : c.toNat < 128 := by
  by_cases hu : c.isUpper = true
  · have := isUpper_iff.mp hu
    omega
  · rw [toLower_of_not_upper (by simpa using hu)] at h
    rw [h]
    exact (letter_plain w).2.1

/-! ## Letter case -/

theorem join_ne_upper (hs : seen ≠ .upper) (hc : c.isUpper = false) :
    ∃ s, seen.join c = .ok s ∧ s ≠ .upper := by
  by_cases hl : c.isLower = true
  · exact ⟨.lower, by simp [LetterCase.join, hl, hs], by decide⟩
  · exact ⟨seen, by simp [LetterCase.join, hl, hc], hs⟩

theorem join_ne_lower (hs : seen ≠ .lower) (hc : c.isLower = false) :
    ∃ s, seen.join c = .ok s ∧ s ≠ .lower := by
  by_cases hu : c.isUpper = true
  · exact ⟨.upper, by simp [LetterCase.join, hc, hu, hs], by decide⟩
  · exact ⟨seen, by simp [LetterCase.join, hc, hu], hs⟩

/-- Characters none of which is of a case are joined without that case. -/
theorem foldlM_join_ne {other : LetterCase} {P : Char → Prop}
    (hstep : ∀ {seen : LetterCase} {c : Char}, seen ≠ other → P c →
      ∃ s, seen.join c = .ok s ∧ s ≠ other)
    (hs : seen ≠ other) (hcs : ∀ c ∈ cs, P c) :
    ∃ s, cs.foldlM LetterCase.join seen = .ok s ∧ s ≠ other := by
  induction cs generalizing seen with
  | nil => exact ⟨seen, rfl, hs⟩
  | cons c rest ih =>
    obtain ⟨hc, hrest⟩ := List.forall_mem_cons.mp hcs
    obtain ⟨s, hjoin, hne⟩ := hstep hs hc
    rw [List.foldlM_cons, hjoin]
    exact ih hne hrest

theorem join_eq_ok (h : seen.join c = .ok s) :
    (s ≠ .upper → seen ≠ .upper ∧ c.isUpper = false) ∧
      (s ≠ .lower → seen ≠ .lower ∧ c.isLower = false) := by
  have hboth : c.isLower = true → c.isUpper = false := by
    intro hl
    rw [isLower_iff] at hl
    rw [Bool.eq_false_iff, Ne, isUpper_iff]
    omega
  rw [LetterCase.join] at h
  split_ifs at h with hl hs hu hs'
  · cases h
    exact ⟨fun _ => ⟨hs, hboth hl⟩, fun hne => absurd rfl hne⟩
  · cases h
    exact ⟨fun hne => absurd rfl hne, fun _ => ⟨hs', by simpa using hl⟩⟩
  · cases h
    exact ⟨fun hne => ⟨hne, by simpa using hu⟩, fun hne => ⟨hne, by simpa using hl⟩⟩

/-- Letters of a case that was not noted do not occur. -/
theorem foldlM_join_eq_ok (h : cs.foldlM LetterCase.join seen = .ok s) :
    (s ≠ .upper → seen ≠ .upper ∧ ∀ c ∈ cs, c.isUpper = false) ∧
      (s ≠ .lower → seen ≠ .lower ∧ ∀ c ∈ cs, c.isLower = false) := by
  induction cs generalizing seen with
  | nil =>
    cases h
    exact ⟨fun hs => ⟨hs, by simp⟩, fun hs => ⟨hs, by simp⟩⟩
  | cons c rest ih =>
    rw [List.foldlM_cons] at h
    cases hjoin : seen.join c with
    | error e =>
      rw [hjoin] at h
      cases h
    | ok t =>
      rw [hjoin] at h
      obtain ⟨hup, hlow⟩ := ih h
      obtain ⟨hup', hlow'⟩ := join_eq_ok hjoin
      constructor
      · intro hs
        obtain ⟨ht, hrest⟩ := hup hs
        obtain ⟨hseen, hc⟩ := hup' ht
        exact ⟨hseen, List.forall_mem_cons.mpr ⟨hc, hrest⟩⟩
      · intro hs
        obtain ⟨ht, hrest⟩ := hlow hs
        obtain ⟨hseen, hc⟩ := hlow' ht
        exact ⟨hseen, List.forall_mem_cons.mpr ⟨hc, hrest⟩⟩

/-- The letters of a text have one case exactly if they can be joined. -/
theorem oneCase_iff : OneCase a ↔ ∃ t, a.toList.foldlM LetterCase.join .none = .ok t := by
  constructor
  · rintro (hcase | hcase)
    · have hnone : LetterCase.none ≠ .upper := by decide
      obtain ⟨t, ht, -⟩ := foldlM_join_ne join_ne_upper hnone hcase
      exact ⟨t, ht⟩
    · have hnone : LetterCase.none ≠ .lower := by decide
      obtain ⟨t, ht, -⟩ := foldlM_join_ne join_ne_lower hnone hcase
      exact ⟨t, ht⟩
  · rintro ⟨t, hjoin⟩
    obtain ⟨hup, hlow⟩ := foldlM_join_eq_ok hjoin
    by_cases ht : t = .upper
    · exact Or.inr (hlow (by rw [ht]; decide)).2
    · exact Or.inl (hup ht).2

/-! ## Human-readable part -/

/-- A character is one byte, which is its number, or its first byte is not an ASCII character. -/
theorem utf8EncodeChar_eq (c : Char) : ∃ (b : UInt8) (rest : List UInt8),
    String.utf8EncodeChar c = b :: rest ∧
      (c.toNat ≤ 127 ∧ b.toNat = c.toNat ∧ rest = [] ∨ 127 < c.toNat ∧ 127 < b.toNat) := by
  have hlt : c.val.toNat < 1114112 := by
    rcases c.valid with h | h
    · have h' : c.val.toNat < 0xd800 := h
      omega
    · exact h.2
  rw [← Char.toNat_val]
  fun_cases String.utf8EncodeChar c with
  | case1 v h => exact ⟨_, _, rfl, Or.inl ⟨h, by rw [UInt8.toNat_ofNat']; omega, rfl⟩⟩
  | case2 v h h' => exact ⟨_, _, rfl, Or.inr ⟨by omega, by rw [UInt8.toNat_ofNat']; omega⟩⟩
  | case3 v h h' h'' => exact ⟨_, _, rfl, Or.inr ⟨by omega, by rw [UInt8.toNat_ofNat']; omega⟩⟩
  | case4 v h h' h'' => exact ⟨_, _, rfl, Or.inr ⟨by omega, by rw [UInt8.toNat_ofNat']; omega⟩⟩

theorem checkBytes_eq_ok_iff :
    checkBytes seen (cs.flatMap String.utf8EncodeChar) = .ok s ↔
      (∀ c ∈ cs, 33 ≤ c.toNat ∧ c.toNat ≤ 126) ∧ cs.foldlM LetterCase.join seen = .ok s := by
  induction cs generalizing seen with
  | nil => simp [checkBytes, pure, Except.pure]
  | cons c rest ih =>
    obtain ⟨b, tail, hbytes, ⟨hc, hb, rfl⟩ | ⟨hc, hb⟩⟩ := utf8EncodeChar_eq c
    · rw [List.flatMap_cons, hbytes, List.singleton_append, checkBytes, hb, Char.ofNat_toNat,
        List.forall_mem_cons, List.foldlM_cons]
      by_cases hprint : 33 ≤ c.toNat ∧ c.toNat ≤ 126
      · rw [if_pos hprint]
        cases seen.join c with
        | error e => simp [bind, Except.bind]
        | ok t =>
          change checkBytes t (rest.flatMap String.utf8EncodeChar) = .ok s ↔
            (_ ∧ ∀ c ∈ rest, 33 ≤ c.toNat ∧ c.toNat ≤ 126) ∧
              rest.foldlM LetterCase.join t = .ok s
          rw [ih, and_iff_right hprint]
      · simp [hprint]
    · have hprint : ¬ (33 ≤ b.toNat ∧ b.toNat ≤ 126) := by omega
      rw [List.flatMap_cons, hbytes, List.cons_append, checkBytes, if_neg hprint]
      constructor
      · intro h
        cases h
      · rintro ⟨h, -⟩
        have := h c List.mem_cons_self
        omega

theorem length_utf8 (h : ∀ c ∈ cs, c.toNat ≤ 127) :
    (cs.flatMap String.utf8EncodeChar).length = cs.length := by
  induction cs with
  | nil => rfl
  | cons c rest ih =>
    obtain ⟨hc, hrest⟩ := List.forall_mem_cons.mp h
    obtain ⟨b, tail, hbytes, ⟨-, -, rfl⟩ | ⟨hc', -⟩⟩ := utf8EncodeChar_eq c
    · rw [List.flatMap_cons, hbytes, List.length_append, ih hrest]
      simp [Nat.add_comm]
    · omega

theorem checkHrp_eq_ok_iff :
    checkHrp cs = .ok s ↔ cs ≠ [] ∧ cs.length ≤ 83 ∧ (∀ c ∈ cs, 33 ≤ c.toNat ∧ c.toNat ≤ 126) ∧
      cs.foldlM LetterCase.join .none = .ok s := by
  have hlength : (∀ c ∈ cs, 33 ≤ c.toNat ∧ c.toNat ≤ 126) →
      (cs.flatMap String.utf8EncodeChar).length = cs.length := fun h =>
    length_utf8 fun c hc => by have := h c hc; omega
  rw [checkHrp]
  constructor
  · intro h
    split_ifs at h with hbad
    obtain ⟨hprint, hjoin⟩ := checkBytes_eq_ok_iff.mp h
    simp only [Bool.or_eq_true, List.isEmpty_iff, decide_eq_true_eq, not_or] at hbad
    refine ⟨?_, ?_, hprint, hjoin⟩
    · rintro rfl
      exact hbad.1 rfl
    · rw [← hlength hprint]
      omega
  · rintro ⟨hne, hle, hprint, hjoin⟩
    have hgood : ¬ ((cs.flatMap String.utf8EncodeChar).isEmpty ||
        decide (83 < (cs.flatMap String.utf8EncodeChar).length)) = true := by
      have hpos := List.length_pos_iff.mpr hne
      rw [← hlength hprint] at hpos hle
      simp only [Bool.or_eq_true, List.isEmpty_iff, decide_eq_true_eq, not_or]
      exact ⟨List.ne_nil_of_length_pos hpos, by omega⟩
    rw [if_neg hgood]
    exact checkBytes_eq_ok_iff.mpr ⟨hprint, hjoin⟩

theorem exists_checkHrp_iff : (∃ s, checkHrp hrp.toList = .ok s) ↔ IsHrp hrp := by
  constructor
  · rintro ⟨s, h⟩
    obtain ⟨hne, hle, hprint, hjoin⟩ := checkHrp_eq_ok_iff.mp h
    exact ⟨hne, hle, hprint, oneCase_iff.mpr ⟨s, hjoin⟩⟩
  · intro h
    obtain ⟨s, hjoin⟩ := oneCase_iff.mp h.one_case
    exact ⟨s, checkHrp_eq_ok_iff.mpr ⟨h.ne_nil, h.length_le, h.printable, hjoin⟩⟩

theorem asciiLower_of_noUpper (h : NoUpper a) : asciiLower a = a := by
  rw [asciiLower, map_toLower h, String.ofList_toList]

theorem noUpper_asciiLower (a : String) : NoUpper (asciiLower a) := by
  intro c hc
  rw [asciiLower, String.toList_ofList, List.mem_map] at hc
  obtain ⟨d, -, rfl⟩ := hc
  exact isUpper_toLower d

/-- The checksum covers the part in lower case. -/
theorem normalHrp_eq (h : checkHrp cs = .ok s) : normalHrp s cs = cs.map Char.toLower := by
  obtain ⟨-, -, -, hjoin⟩ := checkHrp_eq_ok_iff.mp h
  by_cases hs : s = .upper
  · rw [normalHrp, if_pos hs]
  · rw [normalHrp, if_neg hs, map_toLower ((foldlM_join_eq_ok hjoin).1 hs).2]

theorem IsHrp.asciiLower (h : IsHrp hrp) : IsHrp (asciiLower hrp) := by
  have hlist : (Text.asciiLower hrp).toList = hrp.toList.map Char.toLower := String.toList_ofList
  refine ⟨by simpa [hlist] using h.ne_nil, by simpa [hlist] using h.length_le, ?_,
    Or.inl (noUpper_asciiLower hrp)⟩
  intro c hc
  rw [hlist, List.mem_map] at hc
  obtain ⟨d, hd, rfl⟩ := hc
  have hprint := h.printable d hd
  by_cases hu : d.isUpper = true
  · have := isUpper_iff.mp hu
    rw [toNat_toLower hu]
    omega
  · rw [toLower_of_not_upper (by simpa using hu)]
    exact hprint

/-! ## The part after the separator -/

theorem splitLast_eq_some_iff :
    splitLast cs = some (raw, data) ↔ cs = raw ++ '1' :: data ∧ '1' ∉ data := by
  constructor
  · intro h
    have hparts := List.takeWhile_append_dropWhile (p := (· ≠ '1')) (l := cs.reverse)
    have hplain : '1' ∉ cs.reverse.takeWhile (· ≠ '1') := fun hc => by
      simpa using List.mem_takeWhile_imp hc
    have hhead := List.head?_dropWhile_not (· ≠ '1') cs.reverse
    rw [splitLast] at h
    generalize cs.reverse.takeWhile (· ≠ '1') = after at h hparts hplain
    generalize cs.reverse.dropWhile (· ≠ '1') = rest at h hparts hhead
    cases rest with
    | nil => cases h
    | cons c before =>
      cases h
      have hc : c = '1' := by simpa using hhead
      refine ⟨?_, fun h1 => hplain (List.mem_reverse.mp h1)⟩
      rw [← List.reverse_inj, ← hparts, hc]
      simp
  · rintro ⟨rfl, hdata⟩
    have hpos : ∀ c ∈ data.reverse, decide (c ≠ '1') = true := by
      intro c hc
      rw [decide_eq_true_eq]
      rintro rfl
      exact hdata (List.mem_reverse.mp hc)
    have hrev : (raw ++ '1' :: data).reverse = data.reverse ++ '1' :: raw.reverse := by simp
    rw [splitLast, hrev, List.takeWhile_append_of_pos hpos, List.dropWhile_append_of_pos hpos]
    simp

/-- The words of letters in any one case. -/
theorem readWords_eq_ok_iff :
    readWords seen cs = .ok ws ↔
      cs.map Char.toLower = ws.map letter ∧ ∃ t, cs.foldlM LetterCase.join seen = .ok t := by
  induction cs generalizing seen ws with
  | nil =>
    cases ws with
    | nil => simp [readWords, pure, Except.pure]
    | cons w ws => simp [readWords]
  | cons c rest ih =>
    rw [readWords, List.foldlM_cons]
    by_cases hascii : c.toNat < 128
    · rw [if_pos hascii]
      cases seen.join c with
      | error e => simp [bind, Except.bind]
      | ok t =>
        cases hword : word? c with
        | none =>
          have hno : (c :: rest).map Char.toLower ≠ ws.map letter := by
            intro h
            cases ws with
            | nil => cases h
            | cons w ws =>
              rw [word?_eq_some_iff.mpr (List.cons.inj h).1] at hword
              cases hword
          constructor
          · intro h
            cases h
          · rintro ⟨hletters, -⟩
            exact absurd hletters hno
        | some w =>
          show (readWords t rest).map (w :: ·) = .ok ws ↔
            _ ∧ ∃ t', rest.foldlM LetterCase.join t = .ok t'
          rw [List.map_cons, word?_eq_some_iff.mp hword]
          constructor
          · intro h
            cases htail : readWords t rest with
            | error e =>
              rw [htail] at h
              cases h
            | ok tail =>
              rw [htail] at h
              cases h
              obtain ⟨hletters, hjoin⟩ := ih.mp htail
              exact ⟨by rw [hletters, List.map_cons], hjoin⟩
          · rintro ⟨hletters, hjoin⟩
            cases ws with
            | nil => cases hletters
            | cons w' tail =>
              obtain ⟨hfirst, hrest⟩ := List.cons.inj hletters
              have hsame := word?_letter w
              rw [hfirst, word?_letter] at hsame
              rw [ih.mpr ⟨hrest, hjoin⟩, Option.some.inj hsame]
              rfl
    · rw [if_neg hascii]
      constructor
      · intro h
        cases h
      · rintro ⟨hletters, -⟩
        cases ws with
        | nil => cases hletters
        | cons w tail => exact absurd (lt_of_toLower_eq_letter (List.cons.inj hletters).1) hascii

/-! ## Whole texts -/

/-- The text of words under a human-readable part that is in lower case. -/
def written (v : Variant) (hrp : String) (ws : List Word) : String :=
  String.ofList (hrp.toList ++ '1' :: (ws ++ checksum v hrp.toList ws).map letter)

theorem encodeAs_eq_ok_iff :
    encodeAs v hrp ws = .ok a ↔ IsHrp hrp ∧ a = written v (asciiLower hrp) ws := by
  rw [← exists_checkHrp_iff, encodeAs]
  cases hcheck : checkHrp hrp.toList with
  | error e => simp [bind, Except.bind]
  | ok s =>
    simp only [bind, Except.bind, pure, Except.pure, normalHrp_eq hcheck, written, asciiLower,
      String.toList_ofList]
    simp [eq_comm]

theorem take_append_checksum (words : List Word) (v : Variant) (hrp : List Char) :
    (words ++ checksum v hrp words).take ((words ++ checksum v hrp words).length - 6) = words := by
  rw [List.length_append, length_checksum, Nat.add_sub_cancel, List.take_left]

/-- What a text stands for. -/
theorem decode_eq_ok_iff :
    decode a = .ok d ↔ ∃ raw data s, a.toList = raw ++ '1' :: data ∧ '1' ∉ data ∧
      checkHrp raw = .ok s ∧ d.hrp = String.ofList (raw.map Char.toLower) ∧
      readWords s data = .ok (d.words ++ checksum d.variant d.hrp.toList d.words) := by
  constructor
  · intro h
    rw [decode] at h
    cases hsplit : splitLast a.toList with
    | none => simp [hsplit] at h
    | some parts =>
      obtain ⟨raw, data⟩ := parts
      obtain ⟨hchars, hdata⟩ := splitLast_eq_some_iff.mp hsplit
      cases hcheck : checkHrp raw with
      | error e => simp [hsplit, hcheck, bind, Except.bind] at h
      | ok s =>
        cases hread : readWords s data with
        | error e => simp [hsplit, hcheck, hread, bind, Except.bind] at h
        | ok words =>
          simp only [hsplit, hcheck, hread, bind, Except.bind, normalHrp_eq hcheck] at h
          split_ifs at h with hshort
          cases hvariant : variant? (raw.map Char.toLower) words with
          | none => simp [hvariant] at h
          | some v =>
            simp only [hvariant, pure, Except.pure, Except.ok.injEq] at h
            subst h
            have hparts := List.take_append_drop (words.length - 6) words
            have hsix : (words.drop (words.length - 6)).length = 6 := by
              rw [List.length_drop]
              omega
            rw [← hparts, variant?_eq_some_iff v _ _ hsix] at hvariant
            refine ⟨raw, data, s, hchars, hdata, hcheck, rfl, ?_⟩
            rw [hread, String.toList_ofList, ← hvariant, hparts]
  · rintro ⟨raw, data, s, hchars, hdata, hcheck, hhrp, hread⟩
    have hvariant := (variant?_eq_some_iff d.variant d.hrp.toList d.words rfl).mpr rfl
    rw [hhrp, String.toList_ofList] at hread hvariant
    have hlong : ¬ (d.words ++ checksum d.variant (raw.map Char.toLower) d.words).length < 6 := by
      rw [List.length_append, length_checksum]
      omega
    rw [decode, splitLast_eq_some_iff.mpr ⟨hchars, hdata⟩]
    simp only [hcheck, hread, bind, Except.bind, normalHrp_eq hcheck, if_neg hlong, hvariant,
      take_append_checksum, ← hhrp]
    rfl

/-- The part of a text that was read is in lower case. -/
theorem hrp_of_decode (h : decode a = .ok d) : IsHrp d.hrp ∧ NoUpper d.hrp := by
  obtain ⟨raw, data, s, -, -, hcheck, hhrp, -⟩ := decode_eq_ok_iff.mp h
  have hraw : IsHrp (String.ofList raw) :=
    exists_checkHrp_iff.mp ⟨s, by rw [String.toList_ofList, hcheck]⟩
  have hlower : d.hrp = asciiLower (String.ofList raw) := by
    rw [hhrp, asciiLower, String.toList_ofList]
  rw [hlower]
  exact ⟨hraw.asciiLower, noUpper_asciiLower _⟩

theorem noUpper_written (hcase : NoUpper hrp) (v : Variant) (ws : List Word) :
    NoUpper (written v hrp ws) := by
  intro c hc
  rw [written, String.toList_ofList, List.mem_append, List.mem_cons, List.mem_map] at hc
  rcases hc with hc | rfl | ⟨w, -, rfl⟩
  · exact hcase c hc
  · decide
  · exact (letter_plain w).1

/-- In lower case a text is the one that is written for what it stands for. -/
theorem asciiLower_of_decode (h : decode a = .ok d) :
    asciiLower a = written d.variant d.hrp d.words := by
  obtain ⟨raw, data, s, hchars, -, -, hhrp, hread⟩ := decode_eq_ok_iff.mp h
  obtain ⟨hletters, -⟩ := readWords_eq_ok_iff.mp hread
  rw [asciiLower, hchars, List.map_append, List.map_cons, hletters, written, hhrp,
    String.toList_ofList]
  rfl

/-- A text without upper-case letters is the one that is written for what it stands for. -/
theorem eq_written_of_decode (h : decode a = .ok d) (hcase : NoUpper a) :
    a = written d.variant d.hrp d.words := by
  rw [← asciiLower_of_decode h, asciiLower_of_noUpper hcase]

/-! ## Texts in either case -/

/-- The separator has no case. -/
theorem foldlM_join_split :
    (raw ++ '1' :: data).foldlM LetterCase.join .none = .ok s ↔
      ∃ t, raw.foldlM LetterCase.join .none = .ok t ∧ data.foldlM LetterCase.join t = .ok s := by
  rw [List.foldlM_append]
  cases raw.foldlM LetterCase.join .none with
  | error e => simp [bind, Except.bind]
  | ok t =>
    have hsep : t.join '1' = .ok t := by cases t <;> rfl
    change (t.join '1' >>= fun t => data.foldlM LetterCase.join t) = .ok s ↔ _
    rw [hsep]
    simp [bind, Except.bind]

theorem oneCase_of_decode (h : decode a = .ok d) : OneCase a := by
  obtain ⟨raw, data, s, hchars, -, hcheck, -, hread⟩ := decode_eq_ok_iff.mp h
  obtain ⟨-, -, -, hjoin⟩ := checkHrp_eq_ok_iff.mp hcheck
  obtain ⟨-, t, hjoin'⟩ := readWords_eq_ok_iff.mp hread
  refine oneCase_iff.mpr ⟨t, ?_⟩
  rw [hchars, foldlM_join_split]
  exact ⟨s, hjoin, hjoin'⟩

theorem printable_of_toLower (h : 33 ≤ c.toLower.toNat ∧ c.toLower.toNat ≤ 126) :
    33 ≤ c.toNat ∧ c.toNat ≤ 126 := by
  by_cases hu : c.isUpper = true
  · have := isUpper_iff.mp hu
    omega
  · rwa [toLower_of_not_upper (by simpa using hu)] at h

theorem eq_one_of_toLower (h : c.toLower = '1') : c = '1' := by
  by_cases hu : c.isUpper = true
  · have hlower := toNat_toLower hu
    rw [h] at hlower
    have := isUpper_iff.mp hu
    have hone : ('1' : Char).toNat = 49 := rfl
    omega
  · rwa [toLower_of_not_upper (by simpa using hu)] at h

/-- A text is read exactly if its letters have one case and in lower case it is written for what it
stands for. -/
theorem decode_eq_ok_iff_written :
    decode a = .ok d ↔
      OneCase a ∧ IsHrp d.hrp ∧ NoUpper d.hrp ∧ asciiLower a = written d.variant d.hrp d.words := by
  constructor
  · intro h
    obtain ⟨hhrp, hcase⟩ := hrp_of_decode h
    exact ⟨oneCase_of_decode h, hhrp, hcase, asciiLower_of_decode h⟩
  · rintro ⟨hone, hhrp, hcase, hlower⟩
    have hchars : a.toList.map Char.toLower = d.hrp.toList ++ '1' ::
        (d.words ++ checksum d.variant d.hrp.toList d.words).map letter := by
      have h := congrArg String.toList hlower
      rwa [asciiLower, written, String.toList_ofList, String.toList_ofList] at h
    obtain ⟨raw, rest, htext, hraw, hrest⟩ := List.map_eq_append_iff.mp hchars
    obtain ⟨sep, data, rfl, hsep, hdata⟩ := List.map_eq_cons_iff.mp hrest
    obtain rfl := eq_one_of_toLower hsep
    obtain ⟨t, hall⟩ := oneCase_iff.mp hone
    rw [htext, foldlM_join_split] at hall
    obtain ⟨s, hjoin, hjoin'⟩ := hall
    have hlength : raw.length = d.hrp.toList.length := by rw [← hraw, List.length_map]
    have hcheck : checkHrp raw = .ok s := by
      refine checkHrp_eq_ok_iff.mpr ⟨?_, ?_, ?_, hjoin⟩
      · rintro rfl
        exact hhrp.ne_nil hraw.symm
      · rw [hlength]
        exact hhrp.length_le
      · intro c hc
        refine printable_of_toLower (hhrp.printable c.toLower ?_)
        rw [← hraw]
        exact List.mem_map_of_mem hc
    have hplain : '1' ∉ data := by
      intro hmem
      have hletter := List.mem_map_of_mem (f := Char.toLower) hmem
      rw [hdata] at hletter
      obtain ⟨w, -, hw⟩ := List.mem_map.mp hletter
      exact (letter_plain w).2.2 hw
    refine decode_eq_ok_iff.mpr ⟨raw, data, s, htext, hplain, hcheck, ?_,
      readWords_eq_ok_iff.mpr ⟨hdata, t, hjoin'⟩⟩
    rw [hraw, String.ofList_toList]

/-- What was written is read back. -/
theorem decode_written (hhrp : IsHrp hrp) (hcase : NoUpper hrp) (v : Variant) (ws : List Word) :
    decode (written v hrp ws) = .ok ⟨hrp, ws, v⟩ := by
  have hlower := noUpper_written hcase v ws
  exact decode_eq_ok_iff_written.mpr ⟨Or.inl hlower, hhrp, hcase, asciiLower_of_noUpper hlower⟩

end Liveness.Bech32
