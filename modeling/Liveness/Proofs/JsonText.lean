import Mathlib.Tactic.SplitIfs
import Liveness.Json.Printer
import Liveness.Proofs.Caseless

/-!
# Reading printed values

A value that was printed on one line is read back as the document that it is, member for member. The
text is cut into the tokens of the value, and the tokens are put together again; both are shown for
what stands before the rest of a longer text. If it is not too deep and no object has a name twice,
the document stands for the value again.
-/

namespace Liveness.Json

/-! ## Tokens of a value -/

mutual

/-- The tokens of a value. -/
def tokens : Json → List Token
  | .null => [.null]
  | .bool b => [.bool b]
  | .number n => [.number (some n)]
  | .text s => [.text (some s)]
  | .array items => .openArray :: (itemTokens items ++ [.closeArray])
  | .object members => .openObject :: (memberTokens members ++ [.closeObject])

/-- The tokens of items, with commas between them. -/
def itemTokens : List Json → List Token
  | [] => []
  | [v] => tokens v
  | v :: w :: rest => tokens v ++ .comma :: itemTokens (w :: rest)

/-- The tokens of members, with commas between them. -/
def memberTokens : List (String × Json) → List Token
  | [] => []
  | [(name, v)] => .text (some name) :: .colon :: tokens v
  | (name, v) :: m :: rest =>
    .text (some name) :: .colon :: (tokens v ++ .comma :: memberTokens (m :: rest))

end

theorem exists_tokens_cons (v : Json) : ∃ t ts, tokens v = t :: ts ∧ t ≠ .closeArray := by
  cases v with
  | null => exact ⟨_, _, rfl, nofun⟩
  | bool b => exact ⟨_, _, rfl, nofun⟩
  | number n => exact ⟨_, _, rfl, nofun⟩
  | text s => exact ⟨_, _, rfl, nofun⟩
  | array items => exact ⟨_, _, rfl, nofun⟩
  | object members => exact ⟨_, _, rfl, nofun⟩

theorem exists_itemTokens_cons (v : Json) (rest : List Json) :
    ∃ t ts, itemTokens (v :: rest) = t :: ts ∧ t ≠ .closeArray := by
  obtain ⟨t, ts, hv, ht⟩ := exists_tokens_cons v
  cases rest with
  | nil => exact ⟨t, ts, hv, ht⟩
  | cons w rest =>
    exact ⟨t, ts ++ .comma :: itemTokens (w :: rest), by rw [itemTokens, hv]; rfl, ht⟩

theorem exists_memberTokens_cons (m : String × Json) (rest : List (String × Json)) :
    ∃ ts, memberTokens (m :: rest) = .text (some m.1) :: ts := by
  obtain ⟨name, v⟩ := m
  cases rest with
  | nil => exact ⟨_, rfl⟩
  | cons m rest => exact ⟨_, rfl⟩

/-! ## Putting tokens together -/

namespace Document

/-- The state after tokens. -/
def State.run (state : State) (ts : List Token) : Option State :=
  ts.foldlM (fun state t => state.step t) state

theorem State.run_cons (state : State) (t : Token) (ts : List Token) :
    state.run (t :: ts) = (state.step t).bind (·.run ts) := rfl

theorem State.run_append (state : State) (ts us : List Token) :
    state.run (ts ++ us) = (state.run ts).bind (·.run us) := List.foldlM_append

/-- The first item is read like any other. -/
theorem run_firstItem {t : Token} (ht : t ≠ .closeArray) (ts : List Token) (stack : List Frame) :
    (State.firstItem stack).run (t :: ts) = (State.value (.array [] :: stack)).run (t :: ts) := by
  rw [State.run_cons, State.run_cons]
  cases t with
  | closeArray => exact absurd rfl ht
  | _ => rfl

end Document

open Document

mutual

/-- The tokens of a value supply its document. -/
theorem run_tokens : ∀ (v : Json) (stack : List Frame),
    (State.value stack).run (tokens v) = some (.supply v.toDocument stack)
  | .null, _ => rfl
  | .bool _, _ => rfl
  | .number _, _ => rfl
  | .text _, _ => rfl
  | .array items, stack => by
    have hitems := run_itemTokens items
    cases items with
    | nil => rfl
    | cons v rest =>
      obtain ⟨t, ts, hcons, ht⟩ := exists_itemTokens_cons v rest
      have hrun := hitems (List.cons_ne_nil v rest) [] stack
      rw [hcons, List.cons_append] at hrun
      rw [tokens, hcons, List.cons_append, State.run_cons]
      exact (run_firstItem ht (ts ++ [.closeArray]) stack).trans hrun
  | .object members, stack => by
    have hmembers := run_memberTokens members
    cases members with
    | nil => rfl
    | cons m rest =>
      have hrun := hmembers (List.cons_ne_nil m rest) [] stack
      obtain ⟨ts, hcons⟩ := exists_memberTokens_cons m rest
      rw [hcons, List.cons_append] at hrun
      rw [tokens, hcons, List.cons_append, State.run_cons]
      exact hrun

/-- The tokens of items and the bracket after them. -/
theorem run_itemTokens : ∀ (items : List Json), items ≠ [] →
    ∀ (before : List Document) (stack : List Frame),
    (State.value (.array before :: stack)).run (itemTokens items ++ [.closeArray]) =
      some (.supply (.array (before.reverse ++ itemsToDocuments items)) stack)
  | [], h, _, _ => absurd rfl h
  | [v], _, before, stack => by
    rw [itemTokens, State.run_append, run_tokens v]
    simp [State.run, State.supply, State.step, itemsToDocuments]
  | v :: w :: rest, _, before, stack => by
    have hrest :=
      run_itemTokens (w :: rest) (List.cons_ne_nil w rest) (v.toDocument :: before) stack
    rw [itemTokens, List.append_assoc, State.run_append, run_tokens v, Option.bind_some,
      List.cons_append, State.run_cons]
    simpa [State.supply, State.step, itemsToDocuments] using hrest

/-- The tokens of members and the brace after them. -/
theorem run_memberTokens : ∀ (members : List (String × Json)), members ≠ [] →
    ∀ (before : List (Option String × Document)) (stack : List Frame),
    (State.member before stack).run (memberTokens members ++ [.closeObject]) =
      some (.supply (.object (before.reverse ++ membersToDocuments members)) stack)
  | [], h, _, _ => absurd rfl h
  | [(name, v)], _, before, stack => by
    rw [memberTokens, List.cons_append, List.cons_append, State.run_cons, State.step,
      Option.bind_some, State.run_cons, State.step, Option.bind_some, State.run_append,
      run_tokens v]
    simp [State.run, State.supply, State.step, membersToDocuments]
  | (name, v) :: m :: rest, _, before, stack => by
    have hrest := run_memberTokens (m :: rest) (List.cons_ne_nil m rest)
      ((some name, v.toDocument) :: before) stack
    rw [memberTokens, List.cons_append, List.cons_append, State.run_cons, State.step,
      Option.bind_some, State.run_cons, State.step, Option.bind_some, List.append_assoc,
      State.run_append, run_tokens v, Option.bind_some, List.cons_append, State.run_cons]
    simpa [State.supply, State.step, membersToDocuments] using hrest

end

theorem ofTokens?_tokens (v : Json) : Document.ofTokens? (tokens v) = some v.toDocument := by
  have h := run_tokens v []
  rw [State.run] at h
  rw [Document.ofTokens?, h]
  rfl

/-! ## Cutting a text into tokens -/

/-- A word or a numeral ends where this rest begins. -/
def EndsToken (rest : List Char) : Prop :=
  ∀ c ∈ rest.head?, c.isLower = false ∧ inNumeral c = false

/-- In front of a rest that ends a token, the characters are cut into the tokens. -/
def Lexes (cs : List Char) (ts : List Token) : Prop :=
  ∀ before rest, EndsToken rest →
    lexFrom .between before (cs ++ rest) = lexFrom .between (ts.reverse ++ before) rest

section Lexes

variable {c : Char} {cs cs' rest seen : List Char} {t : Token} {ts ts' before : List Token}

theorem lexes_nil : Lexes [] [] := fun _ _ _ => rfl

theorem lexFrom_punctuation (hc : punctuation? c = some t) (before : List Token)
    (rest : List Char) :
    lexFrom .between before (c :: rest) = lexFrom .between (t :: before) rest ∧
      EndsToken (c :: rest) := by
  unfold punctuation? at hc
  split at hc <;> cases hc <;> exact ⟨rfl, by simp [EndsToken, inNumeral]⟩

/-- Texts on both sides of a punctuation character. -/
theorem Lexes.join (h : Lexes cs ts) (hc : punctuation? c = some t) (h' : Lexes cs' ts') :
    Lexes (cs ++ c :: cs') (ts ++ t :: ts') := by
  intro before rest hrest
  rw [List.append_assoc, List.cons_append,
    h before _ (lexFrom_punctuation hc [] (cs' ++ rest)).2, (lexFrom_punctuation hc ..).1,
    h' _ rest hrest]
  simp

theorem lexFrom_word (hw : wordToken? seen.reverse = some t) (hrest : EndsToken rest) :
    lexFrom (.word seen) before rest = lexFrom .between (t :: before) rest := by
  cases rest with
  | nil => simp [lexFrom, LexState.finish, hw]
  | cons c rest =>
    obtain ⟨hlower, -⟩ := hrest c rfl
    simp [lexFrom, LexState.step, hw, hlower]

theorem lexFrom_numeral (hn : numeralToken? seen.reverse = some t) (hrest : EndsToken rest) :
    lexFrom (.numeral seen) before rest = lexFrom .between (t :: before) rest := by
  cases rest with
  | nil => simp [lexFrom, LexState.finish, hn]
  | cons c rest =>
    obtain ⟨-, hin⟩ := hrest c rfl
    simp [lexFrom, LexState.step, hn, hin]

theorem lexes_word (word : List Char) (hw : wordToken? word = some t) : Lexes word [t] := by
  intro before rest hrest
  unfold wordToken? at hw
  split_ifs at hw with h h h <;> cases hw <;> subst h
  · show lexFrom (.word ['l', 'l', 'u', 'n']) before rest = _
    exact lexFrom_word rfl hrest
  · show lexFrom (.word ['e', 'u', 'r', 't']) before rest = _
    exact lexFrom_word rfl hrest
  · show lexFrom (.word ['e', 's', 'l', 'a', 'f']) before rest = _
    exact lexFrom_word rfl hrest

/-! ## Numerals -/

theorem lexFrom_digits (hcs : ∀ c ∈ cs, c.isDigit = true) :
    lexFrom (.numeral seen) before (cs ++ rest) =
      lexFrom (.numeral (cs.reverse ++ seen)) before rest := by
  induction cs generalizing seen with
  | nil => rfl
  | cons c cs ih =>
    obtain ⟨hc, hcs⟩ := List.forall_mem_cons.mp hcs
    have hin : inNumeral c = true := by simp [inNumeral, hc]
    rw [List.cons_append, lexFrom, LexState.step, if_pos hin]
    simp [ih hcs]

theorem le_ofDigitChars (cs : List Char) (n : Nat) : n ≤ Nat.ofDigitChars 10 cs n := by
  induction cs generalizing n with
  | nil => exact Nat.le_refl n
  | cons c cs ih =>
    rw [Nat.ofDigitChars_cons]
    have := ih (10 * n + (c.toNat - '0'.toNat))
    omega

/-- The digits of a number of 64 bits are absorbed to the last one. -/
theorem absorb_eq {n : Nat} (h : Nat.ofDigitChars 10 cs n < Bound.word64) :
    Numeral.absorb n cs = (Nat.ofDigitChars 10 cs n, []) := by
  induction cs generalizing n with
  | nil => rfl
  | cons c cs ih =>
    rw [Nat.ofDigitChars_cons] at h ⊢
    have hfits := Nat.lt_of_le_of_lt (le_ofDigitChars cs _) h
    rw [Numeral.absorb]
    simp only [if_pos hfits, ih h]

theorem head?_toDigits {n : Nat} (hn : n ≠ 0) : (Nat.toDigits 10 n).head? ≠ some '0' := by
  induction n using Nat.strongRecOn with
  | ind n ih =>
    rw [Nat.toDigits_eq_if (by decide)]
    split_ifs with hlt
    · have hdigit : ∀ n < 10, n ≠ 0 → some n.digitChar ≠ some '0' := by decide
      exact hdigit n hlt hn
    · rw [List.head?_append, Option.or_of_isSome (by simp [List.isSome_head?, Nat.toDigits_ne_nil])]
      exact ih (n / 10) (by omega) (by omega)

theorem isDigit_toDigits (n : Nat) : ∀ c ∈ Nat.toDigits 10 n, c.isDigit = true := fun _ hc =>
  Nat.isDigit_of_mem_toDigits (by decide) (by decide) hc

theorem areWhole_toDigits (n : Nat) : Numeral.areWhole (Nat.toDigits 10 n) = true := by
  by_cases hn : n = 0
  · subst hn
    decide
  · have hall : (Nat.toDigits 10 n).all Char.isDigit = true :=
      List.all_eq_true.mpr (isDigit_toDigits n)
    simp [Numeral.areWhole, Decimal.areDigits, hall, head?_toDigits hn]

theorem numeralToken?_natural {n : Nat} (hn : n < Bound.word64) :
    numeralToken? (Nat.toDigits 10 n) = some (.number (some (.natural n))) := by
  have hdigits := isDigit_toDigits n
  have hvalue : Nat.ofDigitChars 10 (Nat.toDigits 10 n) 0 = n :=
    Nat.ofDigitChars_toDigits (by decide) (by decide)
  have hread : Numeral.read (Nat.toDigits 10 n) = some ⟨false, Nat.toDigits 10 n, none, none⟩ := by
    have hwhole := areWhole_toDigits n
    have htake := List.takeWhile_eq_self_iff.mpr hdigits
    have hdrop := List.dropWhile_eq_nil_iff.mpr hdigits
    generalize Nat.toDigits 10 n = ds at *
    cases ds with
    | nil => cases hwhole
    | cons c cs =>
      have hsign : c ≠ '-' := by
        rintro rfl
        exact absurd (hdigits '-' List.mem_cons_self) (by decide)
      simp [Numeral.read, hsign, htake, hdrop, hwhole]
  have habsorb : Numeral.absorb 0 (Nat.toDigits 10 n) = (n, []) := by
    rw [absorb_eq (by rwa [hvalue]), hvalue]
  rw [numeralToken?, hread, Option.map_some, Numeral.number?]
  simp [habsorb]

theorem start_digit (hc : c.isDigit = true) (before : List Token) :
    LexState.start before c = some (.numeral [c], before) := by
  have hgap : isGap c = false := by
    rw [Bool.eq_false_iff]
    intro h
    simp only [isGap, Bool.or_eq_true, decide_eq_true_eq] at h
    rcases h with ((rfl | rfl) | rfl) | rfl <;> simp at hc
  have hquote : c ≠ '"' := by
    rintro rfl
    simp at hc
  have hlower : c.isLower = false := by
    have hle : c.toNat ≤ 57 := (Char.isDigit_iff_toNat.mp hc).2
    rw [Bool.eq_false_iff, Ne, Text.isLower_iff]
    omega
  simp [LexState.start, hgap, hquote, hlower, hc]

theorem lexes_natural {n : Nat} (hn : n < Bound.word64) :
    Lexes (Number.natural n).print.toList [.number (some (.natural n))] := by
  intro before rest hrest
  have hdigits := isDigit_toDigits n
  have htoken := numeralToken?_natural hn
  rw [Number.print, Nat.toString_eq_repr, Nat.toList_repr]
  cases hcs : Nat.toDigits 10 n with
  | nil => exact absurd hcs Nat.toDigits_ne_nil
  | cons c cs =>
    rw [hcs] at hdigits htoken
    obtain ⟨hc, hrestDigits⟩ := List.forall_mem_cons.mp hdigits
    rw [List.cons_append, lexFrom, LexState.step, start_digit hc]
    show lexFrom (.numeral [c]) before (cs ++ rest) = _
    rw [lexFrom_digits hrestDigits]
    exact lexFrom_numeral (by simpa using htoken) hrest

/-! ## String literals -/

theorem escapeDigit_plain : ∀ n < 16, ¬ (escapeDigit n).toNat < 0x20 ∧ escapeDigit n ≠ '\\' ∧
    escapeDigit n ≠ '"' ∧ hexDigit? (escapeDigit n) = some n := by decide

theorem lexFrom_escapeChar (c : Char) :
    lexFrom (.literal seen false) before (escapeChar c ++ rest) =
      lexFrom (.literal ((escapeChar c).reverse ++ seen) false) before rest := by
  unfold escapeChar
  split_ifs with hq hb h8 hc hn hr ht hu
  · rfl
  · rfl
  · rfl
  · rfl
  · rfl
  · rfl
  · rfl
  · obtain ⟨h1, h2, h3, -⟩ := escapeDigit_plain (c.toNat / 16) (by omega)
    obtain ⟨h4, h5, h6, -⟩ := escapeDigit_plain (c.toNat % 16) (by omega)
    show lexFrom (.literal ('0' :: '0' :: 'u' :: '\\' :: seen) false) before
      (escapeDigit (c.toNat / 16) :: escapeDigit (c.toNat % 16) :: rest) = _
    simp [lexFrom, LexState.step, h1, h2, h3, h4, h5, h6]
  · simp [lexFrom, LexState.step, hq, hb, hu]

theorem lexFrom_literal (cs : List Char) :
    lexFrom (.literal seen false) before (cs.flatMap escapeChar ++ rest) =
      lexFrom (.literal ((cs.flatMap escapeChar).reverse ++ seen) false) before rest := by
  induction cs generalizing seen with
  | nil => rfl
  | cons c cs ih =>
    rw [List.flatMap_cons, List.append_assoc, lexFrom_escapeChar, ih, List.reverse_append,
      List.append_assoc]

theorem spell?_unit {unit : Nat} (h : unit < 0xD800) (us : List (Char ⊕ Nat)) :
    spell? (.inr unit :: us) = (spell? us).map (Char.ofNat unit :: ·) := by
  have hhigh : ¬ (0xD800 ≤ unit ∧ unit < 0xDC00) := by omega
  have hlow : ¬ (0xDC00 ≤ unit ∧ unit < 0xE000) := by omega
  have hnone : ¬ (0xD800 ≤ unit ∧ unit < 0xE000) := by omega
  rcases us with _ | ⟨c | low, us⟩
  · simp [spell?, hnone]
  · simp [spell?, hnone]
  · rw [spell?, if_neg hhigh, if_neg hlow]

theorem units?_escaped {x y : Char} (h : escaped? x = some y) (hx : x ≠ 'u') (rest : List Char) :
    units? ('\\' :: x :: rest) = (units? rest).map (.inl y :: ·) := by
  have hstep : units? ('\\' :: x :: rest) = (escaped? x).bind fun y =>
      (units? rest).bind fun units => some (.inl y :: units) := by
    rw [units?]
    · rfl
    · exact fun _ _ _ _ _ hu _ => hx hu
  rw [hstep, h, Option.bind_some, Option.map_eq_bind]
  rfl

/-- What an escape stands for is the character, by itself or by its number. -/
theorem units?_escapeChar (c : Char) : ∃ u : Char ⊕ Nat,
    (u = .inl c ∨ u = .inr c.toNat ∧ c.toNat < 0xD800) ∧
      ∀ rest, units? (escapeChar c ++ rest) = (units? rest).map (u :: ·) := by
  unfold escapeChar
  split_ifs with hq hb h8 hc hn hr ht hu
  · exact ⟨.inl c, Or.inl rfl, units?_escaped (by rw [hq]; rfl) (by decide)⟩
  · exact ⟨.inl c, Or.inl rfl, units?_escaped (by rw [hb]; rfl) (by decide)⟩
  · exact ⟨.inl c, Or.inl rfl, units?_escaped (by rw [h8]; rfl) (by decide)⟩
  · exact ⟨.inl c, Or.inl rfl, units?_escaped (by rw [hc]; rfl) (by decide)⟩
  · exact ⟨.inl c, Or.inl rfl, units?_escaped (by rw [hn]; rfl) (by decide)⟩
  · exact ⟨.inl c, Or.inl rfl, units?_escaped (by rw [hr]; rfl) (by decide)⟩
  · exact ⟨.inl c, Or.inl rfl, units?_escaped (by rw [ht]; rfl) (by decide)⟩
  · obtain ⟨-, -, -, hhigh⟩ := escapeDigit_plain (c.toNat / 16) (by omega)
    obtain ⟨-, -, -, hlow⟩ := escapeDigit_plain (c.toNat % 16) (by omega)
    have hzero : hexDigit? '0' = some 0 := by decide
    have hunit : hexUnit? '0' '0' (escapeDigit (c.toNat / 16)) (escapeDigit (c.toNat % 16)) =
        some c.toNat := by
      simp only [hexUnit?, hzero, hhigh, hlow, Option.bind_eq_bind, Option.bind_some]
      exact congrArg some (by omega)
    refine ⟨.inr c.toNat, Or.inr ⟨rfl, by omega⟩, fun rest => ?_⟩
    show units? ('\\' :: 'u' :: '0' :: '0' :: _ :: _ :: rest) = _
    rw [units?, hunit, Option.map_eq_bind]
    rfl
  · exact ⟨.inl c, Or.inl rfl, fun rest => by simp [units?, hb]⟩

theorem spell_escaped (cs : List Char) :
    ∃ us, units? (cs.flatMap escapeChar) = some us ∧ spell? us = some cs := by
  induction cs with
  | nil => exact ⟨[], rfl, rfl⟩
  | cons c cs ih =>
    obtain ⟨us, hus, hspell⟩ := ih
    obtain ⟨u, hu, hunits⟩ := units?_escapeChar c
    refine ⟨u :: us, by rw [List.flatMap_cons, hunits, hus]; rfl, ?_⟩
    rcases hu with rfl | ⟨rfl, hlt⟩
    · rw [spell?, hspell]
      rfl
    · rw [spell?_unit hlt, hspell, Char.ofNat_toNat]
      rfl

theorem lexes_quote (s : String) : Lexes (quote s).toList [.text (some s)] := by
  intro before rest _
  obtain ⟨us, hunits, hspell⟩ := spell_escaped s.toList
  have htoken : textToken? (s.toList.flatMap escapeChar) = some (.text (some s)) := by
    simp [textToken?, hunits, hspell, String.ofList_toList]
  rw [quote, String.toList_ofList, List.cons_append, List.cons_append, List.append_assoc]
  show lexFrom (.literal [] false) before (s.toList.flatMap escapeChar ++ (['"'] ++ rest)) = _
  rw [lexFrom_literal]
  simp [lexFrom, LexState.step, htoken]

end Lexes

/-! ## Whole values -/

mutual

/-- All numbers in the value are natural numbers of 64 bits. -/
def Plain : Json → Prop
  | .number (.natural n) => n < Bound.word64
  | .number _ => False
  | .array items => PlainItems items
  | .object members => PlainMembers members
  | .null | .bool _ | .text _ => True

/-- All numbers in the items are natural numbers of 64 bits. -/
def PlainItems : List Json → Prop
  | [] => True
  | v :: rest => Plain v ∧ PlainItems rest

/-- All numbers in the members are natural numbers of 64 bits. -/
def PlainMembers : List (String × Json) → Prop
  | [] => True
  | (_, v) :: rest => Plain v ∧ PlainMembers rest

end

theorem toList_intercalate_cons (a b : String) (rest : List String) :
    (String.intercalate "," (a :: b :: rest)).toList =
      a.toList ++ ',' :: (String.intercalate "," (b :: rest)).toList := by
  simp [String.toList_intercalate]

section Bracketed

variable {cs : List Char} {ts : List Token}

theorem Lexes.bracketed {l r : Char} {t u : Token} (hl : punctuation? l = some t)
    (h : Lexes cs ts) (hr : punctuation? r = some u) :
    Lexes (l :: (cs ++ [r])) (t :: (ts ++ [u])) :=
  (lexes_nil.join hl h).join hr lexes_nil

theorem Lexes.member (name : String) {v : Json} (h : Lexes v.print.toList (tokens v)) :
    Lexes (quote name ++ ":" ++ v.print).toList (.text (some name) :: .colon :: tokens v) := by
  rw [String.toList_append, String.toList_append, List.append_assoc]
  exact (lexes_quote name).join rfl h

end Bracketed

mutual

/-- A printed value is cut into its tokens. -/
theorem lexes_print : ∀ v : Json, Plain v → Lexes v.print.toList (tokens v)
  | .null, _ => lexes_word _ rfl
  | .bool true, _ => lexes_word _ rfl
  | .bool false, _ => lexes_word _ rfl
  | .number (.natural _), h => lexes_natural h
  | .text s, _ => lexes_quote s
  | .array items, h => by
    have hitems := (lexes_printItems items h).bracketed
      (rfl : punctuation? '[' = some .openArray) (rfl : punctuation? ']' = some .closeArray)
    rw [print, String.toList_append, String.toList_append, List.append_assoc]
    exact hitems
  | .object members, h => by
    have hmembers := (lexes_printMembers members h).bracketed
      (rfl : punctuation? '\x7b' = some .openObject) (rfl : punctuation? '\x7d' = some .closeObject)
    rw [print, String.toList_append, String.toList_append, List.append_assoc]
    exact hmembers

/-- Printed items are cut into their tokens. -/
theorem lexes_printItems : ∀ items : List Json, PlainItems items →
    Lexes (String.intercalate "," (printItems items)).toList (itemTokens items)
  | [], _ => lexes_nil
  | [v], h => by
    rw [printItems, printItems, String.intercalate_singleton]
    exact lexes_print v h.1
  | v :: w :: rest, h => by
    rw [printItems, printItems, toList_intercalate_cons]
    exact (lexes_print v h.1).join rfl (lexes_printItems (w :: rest) h.2)

/-- Printed members are cut into their tokens. -/
theorem lexes_printMembers : ∀ members : List (String × Json), PlainMembers members →
    Lexes (String.intercalate "," (printMembers members)).toList (memberTokens members)
  | [], _ => lexes_nil
  | [(name, v)], h => by
    rw [printMembers, printMembers, String.intercalate_singleton]
    exact (lexes_print v h.1).member name
  | (name, v) :: (name', v') :: rest, h => by
    rw [printMembers, printMembers, toList_intercalate_cons]
    exact ((lexes_print v h.1).member name).join rfl (lexes_printMembers ((name', v') :: rest) h.2)

end

/-- A value that was printed is read back as the document that it is. -/
theorem parse?_print {v : Json} (h : Plain v) : Document.parse? v.print = some v.toDocument := by
  have hlex : lexFrom .between [] v.print.toList = some (tokens v).reverse := by
    have hrun := lexes_print v h [] [] nofun
    rw [List.append_nil, List.append_nil] at hrun
    exact hrun
  rw [Document.parse?, lex, hlex]
  simp [ofTokens?_tokens]

/-! ## Values without faults -/

mutual

/-- The value is at most `room` levels deep, and no object has two members of one name. -/
def Regular (room : Nat) : Json → Prop
  | .null | .bool _ | .number _ | .text _ => True
  | .array items => 0 < room ∧ RegularItems (room - 1) items
  | .object members =>
    0 < room ∧ RegularMembers (room - 1) members ∧ (members.map (·.1)).Nodup

/-- The items are at most `room` levels deep. -/
def RegularItems (room : Nat) : List Json → Prop
  | [] => True
  | v :: rest => Regular room v ∧ RegularItems room rest

/-- The members are at most `room` levels deep. -/
def RegularMembers (room : Nat) : List (String × Json) → Prop
  | [] => True
  | (_, v) :: rest => Regular room v ∧ RegularMembers room rest

end

theorem foldl_setMember {before members : List (String × Json)}
    (h : ((before ++ members).map (·.1)).Nodup) :
    members.foldl (fun acc m => setMember acc m.1 m.2) before = before ++ members := by
  induction members generalizing before with
  | nil => simp
  | cons m members ih =>
    have hnew : before.any (·.1 == m.1) = false := by
      refine List.any_eq_false.mpr fun n hn heq => ?_
      rw [List.map_append, List.nodup_append] at h
      exact h.2.2 _ (List.mem_map_of_mem hn) _ (List.mem_map_of_mem List.mem_cons_self)
        (by simpa using heq)
    have hset : setMember before m.1 m.2 = before ++ [m] := by
      rw [setMember, hnew]
      rfl
    rw [List.foldl_cons, hset, ih (by simpa using h), List.append_assoc, List.singleton_append]

mutual

/-- The document of a value stands for the value. -/
theorem ofDocument?_toDocument : ∀ (room : Nat) (v : Json), Regular room v →
    ofDocument? room v.toDocument = some v
  | _, .null, _ | _, .bool _, _ | _, .number _, _ | _, .text _, _ => by
    simp [toDocument, ofDocument?]
  | 0, .array _, h => absurd h.1 (lt_irrefl 0)
  | 0, .object _, h => absurd h.1 (lt_irrefl 0)
  | room + 1, .array items, h => by
    rw [toDocument, ofDocument?, itemsOf?_itemsToDocuments room items h.2]
    rfl
  | room + 1, .object members, h => by
    have hmembers : members.foldl (fun acc m => setMember acc m.1 m.2) [] = members :=
      foldl_setMember h.2.2
    rw [toDocument, ofDocument?, membersOf?_membersToDocuments room members h.2.1, Option.map_some,
      hmembers]

theorem itemsOf?_itemsToDocuments : ∀ (room : Nat) (items : List Json), RegularItems room items →
    itemsOf? room (itemsToDocuments items) = some items
  | _, [], _ => rfl
  | room, v :: rest, h => by
    rw [itemsToDocuments, itemsOf?, ofDocument?_toDocument room v h.1,
      itemsOf?_itemsToDocuments room rest h.2]
    rfl

theorem membersOf?_membersToDocuments : ∀ (room : Nat) (members : List (String × Json)),
    RegularMembers room members → membersOf? room (membersToDocuments members) = some members
  | _, [], _ => rfl
  | room, (name, v) :: rest, h => by
    rw [membersToDocuments, membersOf?, ofDocument?_toDocument room v h.1,
      membersOf?_membersToDocuments room rest h.2]
    rfl

end

/-- A value that was printed is read back. -/
theorem value_print {v : Json} (hp : Plain v) (hr : Regular maxDepth v) :
    parse? v.print = some v := by
  rw [parse?, parse?_print hp]
  exact ofDocument?_toDocument maxDepth v hr

end Liveness.Json
