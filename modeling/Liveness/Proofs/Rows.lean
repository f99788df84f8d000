import Mathlib.Data.List.Pairwise
import Mathlib.Data.String.Basic
import Mathlib.Tactic.Common
import Liveness.Proofs.Memory

/-!
# Rows in order

The rows of the memory store stay in increasing order of their keys, so a key has at most one row.
Then the row that is found is the only one there is, and rows are told by what is found in them.
Rows that stand in another order hold the same, and writing them one by one puts them in order.
-/

namespace Liveness

namespace Rows

variable {α : Type} {key : α → String} {rows rows' : List α} {a b : α} {k : String}

theorem mem_put (h : b ∈ put key rows a) : b = a ∨ b ∈ rows := by
  induction rows with
  | nil => exact Or.inl (List.mem_singleton.mp h)
  | cons c rest ih =>
    rw [put] at h
    split_ifs at h
    · exact List.mem_cons.mp h
    · rcases List.mem_cons.mp h with h | h
      · exact Or.inl h
      · exact Or.inr (List.mem_cons_of_mem c h)
    · rcases List.mem_cons.mp h with h | h
      · exact Or.inr (by rw [h]; exact List.mem_cons_self)
      · rcases ih h with h | h
        · exact Or.inl h
        · exact Or.inr (List.mem_cons_of_mem c h)

theorem mem_of_mem_erase (h : a ∈ erase key rows k) : a ∈ rows := (List.mem_filter.mp h).1

theorem sorted_nil : Sorted key ([] : List α) := List.Pairwise.nil

theorem sorted_put (h : Sorted key rows) (a : α) : Sorted key (put key rows a) := by
  induction rows with
  | nil => exact List.pairwise_singleton _ a
  | cons c rest ih =>
    obtain ⟨hc, hrest⟩ := List.pairwise_cons.mp h
    rw [put]
    split_ifs with hlt heq
    · refine List.pairwise_cons.mpr ⟨fun d hd => ?_, h⟩
      rcases List.mem_cons.mp hd with rfl | hd
      · exact hlt
      · exact hlt.trans (hc d hd)
    · refine List.pairwise_cons.mpr ⟨fun d hd => ?_, hrest⟩
      rw [heq]
      exact hc d hd
    · refine List.pairwise_cons.mpr ⟨fun d hd => ?_, ih hrest⟩
      rcases mem_put hd with rfl | hd
      · exact lt_of_le_of_ne (not_lt.mp hlt) (Ne.symm heq)
      · exact hc d hd

theorem sorted_erase (h : Sorted key rows) (k : String) : Sorted key (erase key rows k) :=
  h.filter _

/-- In order, a row is found exactly if it is there. -/
theorem find?_eq_some_iff (h : Sorted key rows) :
    find? key rows k = some a ↔ a ∈ rows ∧ key a = k := by
  constructor
  · intro hf
    exact ⟨mem_of_find? hf, key_of_find? hf⟩
  · rintro ⟨ha, rfl⟩
    induction rows with
    | nil => cases ha
    | cons c rest ih =>
      obtain ⟨hc, hrest⟩ := List.pairwise_cons.mp h
      rw [find?_cons]
      rcases List.mem_cons.mp ha with rfl | ha
      · rw [if_pos rfl]
      · rw [if_neg (hc a ha).ne]
        exact ih hrest ha

theorem find?_eq_none_iff : find? key rows k = none ↔ ∀ a ∈ rows, key a ≠ k := by
  simp [find?]

theorem nodup_keys (h : Sorted key rows) : (rows.map key).Nodup :=
  (List.pairwise_map.mpr h).imp fun hlt => hlt.ne

/-- Rows in order in which the same is found are the same. -/
theorem eq_of_find?_eq (h : Sorted key rows) (h' : Sorted key rows')
    (hf : ∀ k, find? key rows k = find? key rows' k) : rows = rows' := by
  induction rows generalizing rows' with
  | nil =>
    cases rows' with
    | nil => rfl
    | cons b rest' =>
      have hb := hf (key b)
      rw [find?_cons, if_pos rfl] at hb
      cases hb
  | cons a rest ih =>
    obtain ⟨ha, hrest⟩ := List.pairwise_cons.mp h
    cases rows' with
    | nil =>
      have hb := hf (key a)
      rw [find?_cons, if_pos rfl] at hb
      cases hb
    | cons b rest' =>
      obtain ⟨hb, hrest'⟩ := List.pairwise_cons.mp h'
      -- each first row is found in the other rows, so neither key is below the other
      have hab : a ∈ b :: rest' := mem_of_find? (k := key a) <| by
        rw [← hf, find?_cons, if_pos rfl]
      have hba : b ∈ a :: rest := mem_of_find? (k := key b) <| by
        rw [hf, find?_cons, if_pos rfl]
      obtain rfl : a = b := by
        rcases List.mem_cons.mp hab with hab | hab
        · exact hab
        · rcases List.mem_cons.mp hba with hba | hba
          · exact hba.symm
          · exact absurd (hb a hab) (ha b hba).asymm
      refine congrArg (a :: ·) (ih hrest hrest' fun k => ?_)
      by_cases hk : key a = k
      · subst hk
        rw [find?_eq_none_iff.mpr fun c hc => (ha c hc).ne',
          find?_eq_none_iff.mpr fun c hc => (hb c hc).ne']
      · have hk' := hf k
        rwa [find?_cons, find?_cons, if_neg hk, if_neg hk] at hk'

/-! ## Rows that are rewritten one by one -/

section Map

variable {β : Type} {key' : β → String} {f : α → β} (hf : ∀ a, key' (f a) = key a)
include hf

theorem find?_map : find? key' (rows.map f) k = (find? key rows k).map f := by
  induction rows with
  | nil => rfl
  | cons a rest ih =>
    rw [List.map_cons, find?_cons, find?_cons, hf, ih]
    split <;> rfl

theorem sorted_map (h : Sorted key rows) : Sorted key' (rows.map f) := by
  refine List.pairwise_map.mpr (h.imp fun {a b} hlt => ?_)
  rwa [hf, hf]

theorem put_map : put key' (rows.map f) (f a) = (put key rows a).map f := by
  induction rows with
  | nil => rfl
  | cons b rest ih =>
    rw [List.map_cons, put, put, hf, hf, ih]
    split_ifs <;> rfl

theorem erase_map : erase key' (rows.map f) k = (erase key rows k).map f := by
  have hkey : (fun b => key' b != k) ∘ f = fun a => key a != k := by
    funext a
    rw [Function.comp_apply, hf]
  rw [erase, List.filter_map, hkey, erase]

end Map

/-- A row that is written in place of the one that is found, the others left as they are. -/
theorem put_eq_map {f : α → α} (hf : ∀ a, key (f a) = key a) (h : Sorted key rows) (ha : a ∈ rows) :
    put key rows (f a) = rows.map fun b => if key b = key a then f b else b := by
  induction rows with
  | nil => cases ha
  | cons b rest ih =>
    obtain ⟨hb, hrest⟩ := List.pairwise_cons.mp h
    rw [put, hf, List.map_cons]
    rcases List.mem_cons.mp ha with rfl | ha
    · have hmap : (rest.map fun c => if key c = key a then f c else c) = rest :=
        (List.map_congr_left fun c hc => if_neg (hb c hc).ne').trans (List.map_id rest)
      rw [if_neg (lt_irrefl _), if_pos rfl, if_pos rfl, hmap]
    · have hlt := hb a ha
      rw [if_neg hlt.asymm, if_neg hlt.ne', if_neg hlt.ne, ih hrest ha]

/-! ## Rows in any order -/

theorem erase_of_forall_ne (h : ∀ a ∈ rows, key a ≠ k) : erase key rows k = rows :=
  List.filter_eq_self.mpr fun a ha => by simpa using h a ha

/-- A row that is written takes the place of the one of its key. -/
theorem put_perm (h : Sorted key rows) (a : α) :
    (put key rows a).Perm (a :: erase key rows (key a)) := by
  induction rows with
  | nil => exact List.Perm.refl [a]
  | cons b rest ih =>
    obtain ⟨hb, hrest⟩ := List.pairwise_cons.mp h
    rw [put]
    split_ifs with hlt heq
    · have hne : ∀ c ∈ b :: rest, key c ≠ key a := by
        intro c hc
        rcases List.mem_cons.mp hc with rfl | hc
        · exact hlt.ne'
        · exact (hlt.trans (hb c hc)).ne'
      rw [erase_of_forall_ne hne]
    · have he : erase key (b :: rest) (key a) = erase key rest (key a) := by simp [erase, heq]
      rw [he, erase_of_forall_ne fun c hc => by rw [heq]; exact (hb c hc).ne']
    · have he : erase key (b :: rest) (key a) = b :: erase key rest (key a) := by
        simp [erase, Ne.symm heq]
      rw [he]
      exact ((ih hrest).cons b).trans (List.Perm.swap a b _)

/-- If at most one row is asked for, it is found in any order. -/
theorem find?_eq_of_perm {p : α → Bool} (h : rows.Perm rows')
    (hone : (rows'.filter p).length ≤ 1) : rows.find? p = rows'.find? p := by
  have hfilter : rows.filter p = rows'.filter p := by
    have hp := h.filter p
    match hrow : rows'.filter p with
    | [] => rwa [hrow, List.perm_nil] at hp
    | [a] => rwa [hrow, List.perm_singleton] at hp
    | a :: b :: rest => simp [hrow] at hone
  rw [← List.head?_filter, ← List.head?_filter, hfilter]

/-- In order, a key has at most one row. -/
theorem length_filter_key_le_one (h : Sorted key rows) :
    (rows.filter (key · == k)).length ≤ 1 := by
  induction rows with
  | nil => exact Nat.zero_le 1
  | cons a rest ih =>
    obtain ⟨ha, hrest⟩ := List.pairwise_cons.mp h
    by_cases hk : key a = k
    · have hnone : rest.filter (key · == k) = [] := by
        refine List.filter_eq_nil_iff.mpr fun b hb => ?_
        simpa [hk] using (ha b hb).ne'
      simp [hk, hnone]
    · rw [List.filter_cons_of_neg (by simpa using hk)]
      exact ih hrest

/-- A row of a key with some property is the row that is found. -/
theorem any_key_and (h : Sorted key rows) (q : α → Bool) :
    (rows.any fun a => key a == k && q a) = (find? key rows k).any q := by
  induction rows with
  | nil => rfl
  | cons a rest ih =>
    obtain ⟨ha, hrest⟩ := List.pairwise_cons.mp h
    rw [List.any_cons, find?_cons]
    by_cases hk : key a = k
    · have hnone : (rest.any fun b => key b == k && q b) = false := by
        refine List.any_eq_false.mpr fun b hb => ?_
        have hne : key b ≠ k := hk ▸ (ha b hb).ne'
        simp [hne]
      rw [hnone, if_pos hk, Bool.or_false, hk, beq_self_eq_true, Bool.true_and, Option.any_some]
    · rw [beq_false_of_ne hk, Bool.false_and, Bool.false_or, if_neg hk, ih hrest]

/-- Rows written one by one into rows in order, when no key comes twice. -/
theorem foldl_put_perm (h : Sorted key rows) (hk : ((rows ++ rows').map key).Nodup) :
    (rows'.foldl (put key) rows).Perm (rows ++ rows') := by
  induction rows' generalizing rows with
  | nil => rw [List.append_nil, List.foldl_nil]
  | cons a rest ih =>
    have hcons : (rows ++ a :: rest).Perm (a :: rows ++ rest) := List.perm_middle
    have hnew : erase key rows (key a) = rows := by
      refine erase_of_forall_ne fun b hb heq => ?_
      have hkeys := (hcons.map key).nodup_iff.mp hk
      rw [List.cons_append, List.map_cons, List.nodup_cons] at hkeys
      exact hkeys.1 (List.mem_map.mpr ⟨b, List.mem_append_left rest hb, heq⟩)
    have hput : (put key rows a ++ rest).Perm (a :: rows ++ rest) := by
      have hp := put_perm h a
      rw [hnew] at hp
      exact hp.append_right rest
    rw [List.foldl_cons]
    refine (ih (sorted_put h a) ?_).trans (hput.trans hcons.symm)
    exact ((hput.trans hcons.symm).map key).nodup_iff.mpr hk

theorem sorted_foldl_put (h : Sorted key rows) : Sorted key (rows'.foldl (put key) rows) := by
  induction rows' generalizing rows with
  | nil => exact h
  | cons a rest ih => exact ih (sorted_put h a)

/-- Rows that are sorted by writing them one by one. -/
theorem foldl_put_eq (h : Sorted key rows) (hp : rows'.Perm rows) :
    rows'.foldl (put key) [] = rows := by
  have hkeys : (rows'.map key).Nodup := (hp.map key).nodup_iff.mpr (nodup_keys h)
  refine ((foldl_put_perm sorted_nil hkeys).trans hp).eq_of_pairwise ?_
    (sorted_foldl_put sorted_nil) h
  intro a b _ _ hab hba
  exact absurd hab hba.asymm

end Rows

namespace Memory

/-- Subscriptions and records are in order. -/
structure Sorted (s : Memory) : Prop where
  subscriptions : Rows.Sorted Subscription.operator s.subscriptions
  validators : Rows.Sorted ValidatorRecord.operator s.validators

variable {s : Memory} {operator : String}

theorem sorted_empty : Memory.empty.Sorted := ⟨Rows.sorted_nil, Rows.sorted_nil⟩

theorem Sorted.putSubscription (h : s.Sorted) (sub : Subscription) :
    (s.putSubscription sub).Sorted :=
  ⟨Rows.sorted_put h.subscriptions sub, h.validators⟩

theorem Sorted.putValidator (h : s.Sorted) (r : ValidatorRecord) : (s.putValidator r).Sorted :=
  ⟨h.subscriptions, Rows.sorted_put h.validators r⟩

theorem Sorted.deleteSubscription (h : s.Sorted) (operator : String) :
    (s.deleteSubscription operator).Sorted :=
  ⟨Rows.sorted_erase h.subscriptions operator, h.validators⟩

theorem Sorted.insertBlock (h : s.Sorted) (block : BlockRecord) (limit : Nat) :
    (s.insertBlock block limit).Sorted :=
  ⟨h.subscriptions, h.validators⟩

theorem Sorted.subscription?_eq_some_iff (h : s.Sorted) {sub : Subscription} :
    s.subscription? operator = some sub ↔ sub ∈ s.subscriptions ∧ sub.operator = operator :=
  Rows.find?_eq_some_iff h.subscriptions

end Memory

end Liveness
