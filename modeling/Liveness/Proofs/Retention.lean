import Mathlib.Data.Finset.Card
import Liveness.Proofs.History
import Liveness.Proofs.Table

/-!
# The blocks that a table retains

After every write a table drops the lowest heights of those it still has. A height that was dropped
lies below all heights that are left, and the table is full from then on. So it never comes back,
and what is left are always the greatest heights that were ever written, each with the block that
was written last for it. Heights are ordered as signed words.
-/

namespace Liveness

/-! ## The greatest of what was given -/

/-- The greatest keys of what was given, up to a number of them, in increasing order, each with what
was given last for it. -/
structure Greatest {α : Type} (key : α → Int) (n : Nat) (given kept : List α) : Prop where
  ordered : kept.Pairwise (key · < key ·)
  latest : ∀ a ∈ kept, (given.filter (key · = key a)).getLast? = some a
  above : ∀ a ∈ given, (∃ c ∈ kept, key c = key a) ∨ ∀ c ∈ kept, key a < key c
  length : kept.length = min n (given.map key).toFinset.card

namespace Greatest

variable {α β : Type} {key : α → Int} {n : Nat} {given kept kept' : List α} {a : α}

theorem nil (key : α → Int) (n : Nat) : Greatest key n [] [] where
  ordered := List.Pairwise.nil
  latest := by simp
  above := by simp
  length := by simp

theorem mem_given (h : Greatest key n given kept) (ha : a ∈ kept) : a ∈ given :=
  (List.mem_filter.mp (List.mem_of_getLast? (h.latest a ha))).1

theorem eq_of_key_eq (h : Greatest key n given kept) (h' : Greatest key n given kept') {c : α}
    (hc : c ∈ kept') (ha : a ∈ kept) (hk : key c = key a) : c = a := by
  have hlatest := h'.latest c hc
  rw [hk, h.latest a ha] at hlatest
  exact (Option.some.inj hlatest).symm

theorem card_of_ordered (h : kept.Pairwise (key · < key ·)) :
    (kept.map key).toFinset.card = kept.length := by
  have hnodup : (kept.map key).Nodup := (List.pairwise_map.mpr h).imp fun hlt => hlt.ne
  rw [List.toFinset_card_of_nodup hnodup, List.length_map]

theorem keys_subset (h : Greatest key n given kept) :
    (kept.map key).toFinset ⊆ (given.map key).toFinset := by
  intro k hk
  obtain ⟨a, ha, rfl⟩ := List.mem_map.mp (List.mem_toFinset.mp hk)
  exact List.mem_toFinset.mpr (List.mem_map_of_mem (h.mem_given ha))

/-- If a key was given that is not kept, there was no room for it. -/
theorem length_eq (h : Greatest key n given kept) (ha : a ∈ given)
    (hk : ∀ c ∈ kept, key c ≠ key a) : kept.length = n ∧ n < (given.map key).toFinset.card := by
  have hmem : key a ∈ (given.map key).toFinset :=
    List.mem_toFinset.mpr (List.mem_map_of_mem ha)
  have hnot : key a ∉ (kept.map key).toFinset := by
    intro hin
    obtain ⟨c, hc, heq⟩ := List.mem_map.mp (List.mem_toFinset.mp hin)
    exact hk c hc heq
  have hlt := Finset.card_lt_card (h.keys_subset.ssubset_of_mem_notMem hmem hnot)
  have hlength := h.length
  rw [card_of_ordered h.ordered] at hlt
  omega

/-- One more key makes room for itself among the keys that are kept as it does among all keys. -/
theorem min_card_insert (h : Greatest key n given kept) (k : Int) :
    min n (insert k (kept.map key).toFinset).card =
      min n (insert k (given.map key).toFinset).card := by
  have hlength := h.length
  rw [← card_of_ordered h.ordered] at hlength
  by_cases hkept : k ∈ (kept.map key).toFinset
  · rw [Finset.insert_eq_of_mem hkept, Finset.insert_eq_of_mem (h.keys_subset hkept)]
    omega
  · rw [Finset.card_insert_of_notMem hkept]
    by_cases hgiven : k ∈ (given.map key).toFinset
    · -- the key was given and is not kept, so all places are taken
      obtain ⟨a, ha, rfl⟩ := List.mem_map.mp (List.mem_toFinset.mp hgiven)
      have hnone : ∀ c ∈ kept, key c ≠ key a := fun c hc heq =>
        hkept (List.mem_toFinset.mpr (List.mem_map.mpr ⟨c, hc, heq⟩))
      have hroom := (h.length_eq ha hnone).2
      rw [Finset.insert_eq_of_mem hgiven]
      omega
    · rw [Finset.card_insert_of_notMem hgiven]
      omega

/-- With room for everything that was given every key is kept. -/
theorem exists_key_eq (h : Greatest key n given kept) (hn : given.length ≤ n) (ha : a ∈ given) :
    ∃ c ∈ kept, key c = key a := by
  by_contra hnone
  have hk : ∀ c ∈ kept, key c ≠ key a := fun c hc heq => hnone ⟨c, hc, heq⟩
  have hcard : (given.map key).toFinset.card ≤ given.length := by
    simpa using List.toFinset_card_le (given.map key)
  have hroom := (h.length_eq ha hk).2
  omega

theorem subset_of (h : Greatest key n given kept) (h' : Greatest key n given kept') :
    kept ⊆ kept' := by
  intro a ha
  rcases h'.above a (h.mem_given ha) with ⟨c, hc, hk⟩ | hbelow
  · rwa [← h.eq_of_key_eq h' hc ha hk]
  · -- the other list would have to do with the keys above this one
    exfalso
    have hnone : ∀ c ∈ kept', key c ≠ key a := fun c hc => (hbelow c hc).ne'
    have hsubset : (kept'.map key).toFinset ⊆ (kept.map key).toFinset := by
      intro k hk
      obtain ⟨c, hc, rfl⟩ := List.mem_map.mp (List.mem_toFinset.mp hk)
      rcases h.above c (h'.mem_given hc) with ⟨d, hd, hk⟩ | hlow
      · exact List.mem_toFinset.mpr (List.mem_map.mpr ⟨d, hd, hk⟩)
      · exact absurd (hlow a ha) (hbelow c hc).asymm
    have hmem : key a ∈ (kept.map key).toFinset :=
      List.mem_toFinset.mpr (List.mem_map_of_mem ha)
    have hnot : key a ∉ (kept'.map key).toFinset := by
      intro hin
      obtain ⟨c, hc, heq⟩ := List.mem_map.mp (List.mem_toFinset.mp hin)
      exact hnone c hc heq
    have hlt := Finset.card_lt_card (hsubset.ssubset_of_mem_notMem hmem hnot)
    rw [card_of_ordered h.ordered, card_of_ordered h'.ordered, h.length, h'.length] at hlt
    exact lt_irrefl _ hlt

/-- There is one such list. -/
theorem unique (h : Greatest key n given kept) (h' : Greatest key n given kept') :
    kept = kept' := by
  have hnodup : ∀ l : List α, l.Pairwise (key · < key ·) → l.Nodup :=
    fun l hl => hl.imp fun hlt heq => (heq ▸ hlt).ne rfl
  have hperm : kept.Perm kept' := (List.perm_ext_iff_of_nodup (hnodup _ h.ordered)
    (hnodup _ h'.ordered)).mpr fun a => ⟨fun ha => h.subset_of h' ha, fun ha => h'.subset_of h ha⟩
  exact hperm.eq_of_pairwise (fun a b _ _ hab hba => absurd hab hba.asymm) h.ordered h'.ordered

/-- What is read back from what was written is kept as it was given. -/
theorem of_map {f : α → β} {g : β → α} {key : β → Int} {kept : List β}
    (h : Greatest key n (given.map f) kept) (hg : ∀ a ∈ given, g (f a) = a) :
    Greatest (fun a => key (f a)) n given (kept.map g) := by
  have hf : ∀ r ∈ kept, f (g r) = r := by
    intro r hr
    obtain ⟨a, ha, rfl⟩ := List.mem_map.mp (h.mem_given hr)
    rw [hg a ha]
  refine ⟨?_, ?_, ?_, ?_⟩
  · refine List.pairwise_map.mpr (h.ordered.imp_of_mem fun {r s} hr hs hlt => ?_)
    rwa [hf r hr, hf s hs]
  · intro a ha
    obtain ⟨r, hr, rfl⟩ := List.mem_map.mp ha
    have hlatest := h.latest r hr
    rw [List.filter_map, List.getLast?_map] at hlatest
    obtain ⟨b, hb, rfl⟩ := Option.map_eq_some_iff.mp hlatest
    have hmem : b ∈ given := (List.mem_filter.mp (List.mem_of_getLast? hb)).1
    rw [hg b hmem]
    exact hb
  · intro a ha
    rcases h.above (f a) (List.mem_map_of_mem ha) with ⟨r, hr, hk⟩ | hbelow
    · exact Or.inl ⟨g r, List.mem_map_of_mem hr, by rw [hf r hr, hk]⟩
    · refine Or.inr fun c hc => ?_
      obtain ⟨r, hr, rfl⟩ := List.mem_map.mp hc
      rw [hf r hr]
      exact hbelow r hr
  · rw [List.length_map, h.length, List.map_map]
    rfl

end Greatest

/-! ## Writing one block -/

namespace Table

variable {n : Nat} {rows given kept : List BlockRow} {b c : BlockRow}

/-- A block takes the place of the one of its height. -/
theorem mem_putBlock (h : rows.Pairwise (·.height < ·.height)) :
    c ∈ putBlock rows b ↔ c = b ∨ c ∈ rows ∧ c.height ≠ b.height := by
  induction rows with
  | nil => simp [putBlock]
  | cons d rest ih =>
    obtain ⟨hd, hrest⟩ := List.pairwise_cons.mp h
    rw [putBlock]
    split_ifs with hlt heq
    · have hne : c ∈ d :: rest → c.height ≠ b.height := by
        intro hc
        rcases List.mem_cons.mp hc with rfl | hc
        · exact hlt.ne'
        · exact (hlt.trans (hd c hc)).ne'
      rw [List.mem_cons, and_iff_left_of_imp hne]
    · have hne : c ∈ rest → c.height ≠ b.height := fun hc => heq ▸ (hd c hc).ne'
      have hd' : c = d → ¬ c.height ≠ b.height := by
        rintro rfl
        exact not_not.mpr heq.symm
      simp only [List.mem_cons]
      tauto
    · have hd' : c = d → c.height ≠ b.height := by
        rintro rfl
        exact Ne.symm heq
      simp only [List.mem_cons, ih hrest]
      tauto

theorem pairwise_putBlock (h : rows.Pairwise (·.height < ·.height)) (b : BlockRow) :
    (putBlock rows b).Pairwise (·.height < ·.height) := by
  induction rows with
  | nil => exact List.pairwise_singleton _ b
  | cons d rest ih =>
    obtain ⟨hd, hrest⟩ := List.pairwise_cons.mp h
    rw [putBlock]
    split_ifs with hlt heq
    · refine List.pairwise_cons.mpr ⟨fun c hc => ?_, h⟩
      rcases List.mem_cons.mp hc with rfl | hc
      · exact hlt
      · exact hlt.trans (hd c hc)
    · refine List.pairwise_cons.mpr ⟨fun c hc => ?_, hrest⟩
      rw [heq]
      exact hd c hc
    · refine List.pairwise_cons.mpr ⟨fun c hc => ?_, ih hrest⟩
      rcases (mem_putBlock hrest).mp hc with rfl | ⟨hc, -⟩
      · omega
      · exact hd c hc

/-- Writing a block adds its height to those that are there. -/
theorem length_putBlock (h : rows.Pairwise (·.height < ·.height)) (b : BlockRow) :
    (putBlock rows b).length = (insert b.height (rows.map BlockRow.height).toFinset).card := by
  have hkeys : ((putBlock rows b).map BlockRow.height).toFinset =
      insert b.height (rows.map BlockRow.height).toFinset := by
    ext k
    simp only [List.mem_toFinset, List.mem_map, mem_putBlock h, Finset.mem_insert]
    constructor
    · rintro ⟨c, rfl | ⟨hc, -⟩, rfl⟩
      · exact Or.inl rfl
      · exact Or.inr ⟨c, hc, rfl⟩
    · rintro (rfl | ⟨c, hc, rfl⟩)
      · exact ⟨b, Or.inl rfl, rfl⟩
      · by_cases heq : c.height = b.height
        · exact ⟨b, Or.inl rfl, heq.symm⟩
        · exact ⟨c, Or.inr ⟨hc, heq⟩, rfl⟩
  rw [← hkeys, Greatest.card_of_ordered (pairwise_putBlock h b)]

/-- A block below all others comes first. -/
theorem putBlock_of_forall_lt (h : ∀ c ∈ rows, b.height < c.height) :
    putBlock rows b = b :: rows := by
  cases rows with
  | nil => rfl
  | cons c rest => rw [putBlock, if_pos (h c List.mem_cons_self)]

/-! ## What is left after a write -/

/-- What is dropped lies below what is kept. -/
theorem lt_of_not_mem_keepLast (h : rows.Pairwise (·.height < ·.height)) {d : BlockRow}
    (hd : d ∈ rows) (hnot : d ∉ History.keepLast n rows) :
    ∀ c ∈ History.keepLast n rows, d.height < c.height := by
  intro c hc
  have hsplit : rows.take (rows.length - n) ++ History.keepLast n rows = rows :=
    List.take_append_drop _ rows
  rw [← hsplit] at h hd
  rcases List.mem_append.mp hd with hd | hd
  · exact (List.pairwise_append.mp h).2.2 d hd c hc
  · exact absurd hd hnot

/-- A height that was dropped before lies below all that is left after one more write. -/
theorem lt_of_dropped (h : Greatest BlockRow.height n given kept) {a : BlockRow} (ha : a ∈ given)
    (hnone : ∀ c ∈ putBlock kept b, c.height ≠ a.height) :
    ∀ c ∈ History.keepLast n (putBlock kept b), a.height < c.height := by
  have hmem : ∀ c, c ∈ putBlock kept b ↔ c = b ∨ c ∈ kept ∧ c.height ≠ b.height :=
    fun c => mem_putBlock h.ordered
  have hne : b.height ≠ a.height := hnone b ((hmem b).mpr (Or.inl rfl))
  have hold : ∀ c ∈ kept, c.height ≠ a.height := by
    intro c hc hk
    by_cases hcb : c.height = b.height
    · exact hne (hcb.symm.trans hk)
    · exact hnone c ((hmem c).mpr (Or.inr ⟨hc, hcb⟩)) hk
  have hbelow : ∀ c ∈ kept, a.height < c.height := by
    rcases h.above a ha with ⟨c, hc, hk⟩ | hbelow
    · exact absurd hk (hold c hc)
    · exact hbelow
  rcases lt_or_gt_of_ne hne with hlow | hhigh
  · -- the new block is the lowest, and there is no room for it
    have hput : putBlock kept b = b :: kept :=
      putBlock_of_forall_lt fun c hc => hlow.trans (hbelow c hc)
    have hkeep : History.keepLast n (b :: kept) = kept := by
      rw [History.keepLast, List.length_cons, (h.length_eq ha hold).1,
        Nat.add_sub_cancel_left, List.drop_one, List.tail_cons]
    rw [hput, hkeep]
    exact hbelow
  · intro c hc
    rcases (hmem c).mp ((History.keepLast_suffix n _).subset hc) with rfl | ⟨hc, -⟩
    · exact hhigh
    · exact hbelow c hc

/-- A write that drops the lowest heights keeps the greatest of all that was given. -/
theorem greatest_write (h : Greatest BlockRow.height n given kept) (b : BlockRow) :
    Greatest BlockRow.height n (given ++ [b]) (History.keepLast n (putBlock kept b)) := by
  have hmem : ∀ c, c ∈ putBlock kept b ↔ c = b ∨ c ∈ kept ∧ c.height ≠ b.height :=
    fun c => mem_putBlock h.ordered
  have hordered := pairwise_putBlock h.ordered b
  have hsuffix := History.keepLast_suffix n (putBlock kept b)
  refine ⟨hordered.sublist hsuffix.sublist, ?_, ?_, ?_⟩
  · intro a ha
    rw [List.filter_append]
    rcases (hmem a).mp (hsuffix.subset ha) with rfl | ⟨ha, hne⟩
    · simp
    · have hnone : [b].filter (·.height = a.height) = [] := by simp [hne.symm]
      rw [hnone, List.append_nil]
      exact h.latest a ha
  · intro a ha
    by_cases hin : ∃ c ∈ putBlock kept b, c.height = a.height
    · -- the height of `a` is there before the lowest are dropped
      obtain ⟨d, hd, hk⟩ := hin
      by_cases hkept : d ∈ History.keepLast n (putBlock kept b)
      · exact Or.inl ⟨d, hkept, hk⟩
      · exact Or.inr (hk ▸ lt_of_not_mem_keepLast hordered hd hkept)
    · have hnone : ∀ c ∈ putBlock kept b, c.height ≠ a.height := fun c hc hk => hin ⟨c, hc, hk⟩
      rcases List.mem_append.mp ha with hgiven | hnew
      · exact Or.inr (lt_of_dropped h hgiven hnone)
      · obtain rfl := List.mem_singleton.mp hnew
        exact absurd rfl (hnone a ((hmem a).mpr (Or.inl rfl)))
  · have hkeys : ((given ++ [b]).map BlockRow.height).toFinset =
        insert b.height (given.map BlockRow.height).toFinset := by
      ext k
      simp
    rw [History.length_keepLast, length_putBlock h.ordered, hkeys]
    exact h.min_card_insert b.height

/-! ## Runs of writes -/

/-- Writes that each drop the lowest heights beyond a limit. -/
theorem greatest_foldl_keepLast (h : Greatest BlockRow.height n given kept) (rows : List BlockRow) :
    Greatest BlockRow.height n (given ++ rows)
      (rows.foldl (fun kept b => History.keepLast n (putBlock kept b)) kept) := by
  induction rows generalizing given kept with
  | nil => rwa [List.append_nil]
  | cons b rest ih =>
    have hrest := ih (greatest_write h b)
    rwa [List.append_assoc] at hrest

/-- Writes that drop nothing, if there is room for all of them. -/
theorem greatest_foldl_putBlock (h : Greatest BlockRow.height n given kept)
    (hn : (given ++ rows).length ≤ n) :
    Greatest BlockRow.height n (given ++ rows) (rows.foldl putBlock kept) := by
  induction rows generalizing given kept with
  | nil => rwa [List.append_nil]
  | cons b rest ih =>
    have happ : given ++ b :: rest = (given ++ [b]) ++ rest := by simp
    have hwrite := greatest_write h b
    have hroom : (putBlock kept b).length ≤ n := by
      have hcard := h.length
      rw [length_putBlock h.ordered]
      have hinsert := Finset.card_insert_le b.height (kept.map BlockRow.height).toFinset
      rw [Greatest.card_of_ordered h.ordered] at hinsert
      have hgiven : (given.map BlockRow.height).toFinset.card ≤ given.length := by
        simpa using List.toFinset_card_le (given.map BlockRow.height)
      simp only [List.length_append, List.length_cons] at hn
      omega
    rw [History.keepLast_of_length_le hroom] at hwrite
    rw [happ] at hn ⊢
    exact ih hwrite hn

/-- The blocks that are read back are the greatest of those that were written. -/
theorem greatest_read {bs : List BlockRecord}
    (h : Greatest BlockRow.height n ([] ++ bs.map BlockRow.ofRecord) rows)
    (hread : ∀ b ∈ bs, (BlockRow.ofRecord b).record = b) :
    Greatest (fun b => signed b.height) n bs (rows.map BlockRow.record) := by
  have hkey : (fun b => (BlockRow.ofRecord b).height) = fun b => signed b.height := by
    funext b
    rw [BlockRow.ofRecord]
  rw [List.nil_append] at h
  rw [← hkey]
  exact h.of_map hread

theorem blocks_foldl_insertBlock (t : Table) (bs : List BlockRecord) (n : Nat) :
    (bs.foldl (·.insertBlock · n) t).blocks = (bs.map BlockRow.ofRecord).foldl
      (fun kept b => keepGreatest (signed n) (putBlock kept b)) t.blocks := by
  induction bs generalizing t with
  | nil => rfl
  | cons b rest ih => rw [List.foldl_cons, ih, List.map_cons, List.foldl_cons, insertBlock]

/-- Writes of blocks succeed whatever is written. -/
theorem performAll_insertBlock (t : Table) (bs : List BlockRecord) (n : Nat)
    (rs : List Store.Request) :
    (Store.performAll t (bs.map (.insertBlock · n) ++ rs)).1 =
      List.replicate bs.length (.ok .done) ++
        (Store.performAll (bs.foldl (·.insertBlock · n) t) rs).1 := by
  induction bs generalizing t with
  | nil => rfl
  | cons b rest ih =>
    have hinsert : Store.perform t (.insertBlock b n) = (.ok .done, t.insertBlock b n) := by
      simp only [Store.perform, Store.insertBlock, Except.map]
    rw [List.map_cons, List.cons_append, Store.performAll, hinsert, List.foldl_cons]
    simp only [ih, List.length_cons, List.replicate_succ, List.cons_append]

/-- The blocks of a table are the greatest of all that were ever inserted. Whatever their order and
however often heights come again, every insertion succeeds, and with a limit that is no negative
word the table answers with the greatest heights ever inserted up to this number, in increasing
order as signed words, each with the block inserted last for it. With a limit that is a negative
word no height is ever dropped. -/
theorem blocks_greatest {n : Nat} {bs : List BlockRecord} (hn : n < Bound.word64)
    (hb : ∀ b ∈ bs, b.height < Bound.word64 ∧ b.txs < Bound.word32) :
    ∃ kept,
      (Store.performAll Table.empty (bs.map (.insertBlock · n) ++ [.blocks])).1 =
        List.replicate bs.length (.ok .done) ++ [.ok (.blocks kept)] ∧
      (n < Bound.signed64 →
        ∀ l, Greatest (fun b => signed b.height) n bs l ↔ l = kept) ∧
      (Bound.signed64 ≤ n →
        (∀ l, Greatest (fun b => signed b.height) bs.length bs l ↔ l = kept) ∧
          ∀ b ∈ bs, ∃ c ∈ kept, signed c.height = signed b.height) := by
  have hread : ∀ b ∈ bs, (BlockRow.ofRecord b).record = b :=
    fun b hmem => blockRecord_ofRecord_of_lt (hb b hmem).1 (hb b hmem).2
  have hiff : ∀ {m kept}, Greatest (fun b => signed b.height) m bs kept →
      ∀ l, Greatest (fun b => signed b.height) m bs l ↔ l = kept :=
    fun h l => ⟨fun hl => hl.unique h, fun hl => hl ▸ h⟩
  refine ⟨(bs.foldl (·.insertBlock · n) Table.empty).blocks.map BlockRow.record,
    performAll_insertBlock _ _ _ _, fun hlt => hiff ?_, fun hle => ?_⟩
  · have hkeep : (fun kept b => keepGreatest (signed n) (putBlock kept b)) =
        fun kept b => History.keepLast n (putBlock kept b) := by
      simp only [keepGreatest_signed hlt]
    rw [blocks_foldl_insertBlock, hkeep]
    exact greatest_read (greatest_foldl_keepLast (.nil _ n) _) hread
  · have hkeep : (fun kept b => keepGreatest (signed n) (putBlock kept b)) = putBlock := by
      simp only [keepGreatest_of_le hle hn]
    have hall : Greatest (fun b => signed b.height) bs.length bs
        ((bs.foldl (·.insertBlock · n) Table.empty).blocks.map BlockRow.record) := by
      rw [blocks_foldl_insertBlock, hkeep]
      exact greatest_read (greatest_foldl_putBlock (.nil _ bs.length) (by simp)) hread
    exact ⟨hiff hall, fun b hmem => hall.exists_key_eq (Nat.le_refl bs.length) hmem⟩

/-- A height that was dropped comes again and finds no room, a height above all words with a sign is
the lowest, and without a limit all five heights are there. -/
theorem blocks_greatest_of_repeats :
    let bs : List BlockRecord := [⟨9, "A", 1⟩, ⟨9223372036854775809, "B", 2⟩, ⟨4, "C", 3⟩,
      ⟨9, "D", 4⟩, ⟨7, "E", 5⟩, ⟨4, "F", 6⟩, ⟨12, "G", 7⟩]
    let answers (n : Nat) := (Store.performAll empty (bs.map (.insertBlock · n) ++ [.blocks])).1
    (∀ b ∈ bs, b.height < Bound.word64 ∧ b.txs < Bound.word32) ∧
      answers 3 = List.replicate 7 (.ok .done) ++
        [.ok (.blocks [⟨7, "E", 5⟩, ⟨9, "D", 4⟩, ⟨12, "G", 7⟩])] ∧
      answers Bound.signed64 = List.replicate 7 (.ok .done) ++
        [.ok (.blocks [⟨9223372036854775809, "B", 2⟩, ⟨4, "F", 6⟩, ⟨7, "E", 5⟩, ⟨9, "D", 4⟩,
          ⟨12, "G", 7⟩])] := by
  intro bs answers
  have hb : ∀ b ∈ bs, b.height < Bound.word64 ∧ b.txs < Bound.word32 := by decide
  obtain ⟨few, hfew, hgreatest, -⟩ := blocks_greatest (n := 3) (by decide) hb
  obtain ⟨all, hall, -, hevery⟩ := blocks_greatest (n := Bound.signed64) (by decide) hb
  have h3 : Greatest (fun b => signed b.height) 3 bs
      [⟨7, "E", 5⟩, ⟨9, "D", 4⟩, ⟨12, "G", 7⟩] :=
    ⟨by decide +kernel, by decide +kernel, by decide +kernel, by decide +kernel⟩
  have h7 : Greatest (fun b => signed b.height) 7 bs [⟨9223372036854775809, "B", 2⟩,
      ⟨4, "F", 6⟩, ⟨7, "E", 5⟩, ⟨9, "D", 4⟩, ⟨12, "G", 7⟩] :=
    ⟨by decide +kernel, by decide +kernel, by decide +kernel, by decide +kernel⟩
  have hfew' := (hgreatest (by decide) _).mp h3
  have hall' := ((hevery (Nat.le_refl _)).1 _).mp h7
  refine ⟨hb, ?_, ?_⟩
  · rw [hfew']
    exact hfew
  · rw [hall']
    exact hall

end Table

end Liveness
