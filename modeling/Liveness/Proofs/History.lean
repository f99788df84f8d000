import Mathlib.Data.List.Basic
import Liveness.History

/-!
# What a history accepts

A history judges the age of an observation by its newest entry alone. Pushing with a limit of at
least one makes the pushed entry the newest one, so the entries that were dropped are never missed.
-/

namespace Liveness.History

variable {h h' : History} {e : Attendance} {limit k : Nat}

theorem push?_eq_some_iff :
    h.push? e limit = some h' ↔
      h.accepts e = true ∧ h' = ⟨keepLast limit (h.entries ++ [e])⟩ := by
  by_cases ha : h.accepts e
  · simp [push?, ha, eq_comm]
  · simp [push?, ha]

theorem exists_push (ha : h.accepts e = true) (limit : Nat) : ∃ h', h.push? e limit = some h' :=
  ⟨_, push?_eq_some_iff.mpr ⟨ha, rfl⟩⟩

theorem accepts_iff : h.accepts e = true ↔ ∀ last ∈ h.newest?, last.height < e.height := by
  cases hn : h.newest? with
  | none => simp [accepts, hn]
  | some last => simp [accepts, hn]

/-- The last entry of a list survives if at least one entry is kept. -/
theorem getLast?_keepLast {α : Type} (hl : 1 ≤ limit) (l : List α) (a : α) :
    (keepLast limit (l ++ [a])).getLast? = some a := by
  have hd : l.length + 1 - limit ≤ l.length := by omega
  rw [keepLast, List.length_append, List.length_singleton, List.drop_append_of_le_length hd]
  simp

/-- The entry that was pushed is the newest one. -/
theorem newest?_push (hl : 1 ≤ limit) (hp : h.push? e limit = some h') : h'.newest? = some e := by
  obtain ⟨-, rfl⟩ := push?_eq_some_iff.mp hp
  exact getLast?_keepLast hl h.entries e

/-- After a push no entry but the pushed one is the newest, even if nothing is kept. -/
theorem eq_of_mem_newest?_push (hp : h.push? e limit = some h') {last : Attendance}
    (hlast : last ∈ h'.newest?) : last = e := by
  rcases Nat.eq_zero_or_pos limit with rfl | hl
  · obtain ⟨-, rfl⟩ := push?_eq_some_iff.mp hp
    simp [newest?, keepLast] at hlast
  · rw [newest?_push hl hp] at hlast
    exact (Option.some.inj hlast).symm

/-- What is higher than the pushed entry is accepted next. -/
theorem accepts_push (hp : h.push? e limit = some h') {e' : Attendance}
    (hlt : e.height < e'.height) : h'.accepts e' = true :=
  accepts_iff.mpr fun last hlast => by rwa [eq_of_mem_newest?_push hp hlast]

/-- What was just pushed is not pushed again, unless nothing is kept. -/
theorem push_again (hp : h.push? e limit = some h') :
    (if h'.accepts e then ⟨keepLast limit (h'.entries ++ [e])⟩ else h') = h' := by
  split
  · rename_i ha
    rcases Nat.eq_zero_or_pos limit with rfl | hl
    · obtain ⟨-, rfl⟩ := push?_eq_some_iff.mp hp
      simp [keepLast]
    · have := accepts_iff.mp ha e (by rw [newest?_push hl hp]; rfl)
      omega
  · rfl

/-! ## What is kept -/

theorem keepLast_zero (l : List Attendance) : keepLast 0 l = [] := by simp [keepLast]

theorem keepLast_succ (l : List Attendance) (e : Attendance) :
    keepLast (k + 1) (l ++ [e]) = keepLast k l ++ [e] := by
  have hlen : (l ++ [e]).length - (k + 1) = l.length - k := by simp
  have hle : l.length - k ≤ l.length := Nat.sub_le _ _
  rw [keepLast, keepLast, hlen, List.drop_append_of_le_length hle]

theorem keepLast_of_length_le {α : Type} {l : List α} (h : l.length ≤ k) : keepLast k l = l := by
  rw [keepLast, Nat.sub_eq_zero_of_le h, List.drop_zero]

/-- What is kept of entries of which some were dropped was kept before. -/
theorem keepLast_keepLast_suffix (l : List Attendance) :
    keepLast k (keepLast limit l) <:+ keepLast k l := by
  have hin : keepLast k (keepLast limit l) <:+ l :=
    (keepLast_suffix k _).trans (keepLast_suffix limit l)
  refine List.suffix_of_suffix_length_le hin (keepLast_suffix k l) ?_
  rw [length_keepLast, length_keepLast, length_keepLast]
  omega

theorem size_push (hp : h.push? e limit = some h') : h'.size = min limit (h.size + 1) := by
  obtain ⟨-, rfl⟩ := push?_eq_some_iff.mp hp
  rw [size, length_keepLast, List.length_append, List.length_singleton, size]

/-! ## Order -/

section Ascending

variable {α : Type} {f : α → Nat} {l : List α}

/-- In an ascending list the last element decides what lies above all of them. -/
theorem forall_lt_iff_of_ascending (hl : l.Pairwise (f · < f ·)) (n : Nat) :
    (∀ x ∈ l, f x < n) ↔ ∀ x ∈ l.getLast?, f x < n := by
  rcases List.eq_nil_or_concat l with rfl | ⟨l, a, rfl⟩
  · simp
  · simp only [List.concat_eq_append, List.pairwise_append, List.mem_singleton] at hl
    simp only [List.concat_eq_append, List.getLast?_append, List.mem_append, List.mem_singleton]
    constructor
    · intro hx x hxa
      exact hx x (Or.inr (by simpa [eq_comm] using hxa))
    · rintro hx x (hxl | rfl)
      · exact Nat.lt_trans (hl.2.2 x hxl a rfl) (hx a (by simp))
      · exact hx x (by simp)

/-- An ascending list goes on with what lies above its last element. -/
theorem ascending_concat (hl : l.Pairwise (f · < f ·)) {a : α}
    (ha : ∀ x ∈ l.getLast?, f x < f a) : (l ++ [a]).Pairwise (f · < f ·) := by
  have hall : ∀ x ∈ l, f x < f a := (forall_lt_iff_of_ascending hl (f a)).mpr ha
  refine List.pairwise_append.mpr ⟨hl, List.pairwise_singleton _ a, ?_⟩
  intro x hx b hb
  rw [List.mem_singleton.mp hb]
  exact hall x hx

end Ascending

/-- A push of an entry that is accepted keeps the order. -/
theorem ascending_push (ho : h.entries.Pairwise (·.height < ·.height))
    (hp : h.push? e limit = some h') : h'.entries.Pairwise (·.height < ·.height) := by
  obtain ⟨ha, rfl⟩ := push?_eq_some_iff.mp hp
  have hgrown : (h.entries ++ [e]).Pairwise (·.height < ·.height) :=
    ascending_concat ho (accepts_iff.mp ha)
  exact hgrown.sublist (keepLast_suffix limit _).sublist

end Liveness.History
