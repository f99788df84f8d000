import Mathlib.Data.List.Infix
import Liveness.Proofs.History

/-!
# The window of a history

A history forgets its oldest entries, and judges an observation by its newest entry alone. Beside it
stands the ledger of all pushes that were accepted. However the limits change, the history is the
end of the ledger, so its newest entry is the highest one that was ever accepted, and what is
refused is what does not exceed everything accepted before.
-/

namespace Liveness

/-- An observation to push, with the number of entries to keep. -/
structure Push where
  /-- The observation. -/
  entry : Attendance
  /-- The number of entries to keep. -/
  limit : Nat
  deriving DecidableEq, Repr

/-- A history with all pushes that it accepted, oldest first. -/
structure Ledger where
  /-- The history. -/
  window : History
  /-- The accepted pushes. -/
  accepted : List Push
  deriving DecidableEq, Repr

namespace Ledger

/-- One push. -/
def push (l : Ledger) (p : Push) : Ledger :=
  match l.window.push? p.entry p.limit with
  | some window => ⟨window, l.accepted ++ [p]⟩
  | none => l

/-- The ledger of a run of pushes on the empty history. -/
def ofPushes (pushes : List Push) : Ledger := pushes.foldl push ⟨.empty, []⟩

/-- The accepted entries. -/
def entries (l : Ledger) : List Attendance := l.accepted.map Push.entry

variable {l : Ledger} {p : Push} {pushes : List Push}

theorem push_of_some {window : History} (h : l.window.push? p.entry p.limit = some window) :
    l.push p = ⟨window, l.accepted ++ [p]⟩ := by
  rw [push, h]

theorem push_of_none (h : l.window.push? p.entry p.limit = none) : l.push p = l := by
  rw [push, h]

/-! ## The invariant -/

/-- The window is the end of the ledger, and holds its last entry. That the last entry is still
there is what the next push is judged by. -/
structure Sound (l : Ledger) : Prop where
  suffix : l.window.entries <:+ l.entries
  newest : l.window.newest? = l.entries.getLast?
  ascending : l.entries.Pairwise (·.height < ·.height)
  bounded : ∀ p ∈ l.accepted.getLast?, l.window.size ≤ p.limit

theorem sound_empty : Sound ⟨.empty, []⟩ where
  suffix := List.suffix_refl []
  newest := rfl
  ascending := List.Pairwise.nil
  bounded := by simp

/-- The history and the ledger accept the same observations. -/
theorem Sound.accepts_iff (h : l.Sound) (e : Attendance) :
    l.window.accepts e = true ↔ ∀ a ∈ l.entries, a.height < e.height := by
  rw [History.accepts_iff, History.forall_lt_iff_of_ascending h.ascending, h.newest]

theorem Sound.push (h : l.Sound) (hp : 1 ≤ p.limit) : (l.push p).Sound := by
  cases hpush : l.window.push? p.entry p.limit with
  | none =>
    rw [push_of_none hpush]
    exact h
  | some window =>
    obtain ⟨haccepts, hwindow⟩ := History.push?_eq_some_iff.mp hpush
    have hentries : (⟨window, l.accepted ++ [p]⟩ : Ledger).entries = l.entries ++ [p.entry] := by
      rw [entries, List.map_append]
      rfl
    rw [push_of_some hpush]
    refine ⟨?_, ?_, ?_, ?_⟩
    · -- what is kept is an end of the old window and the new entry
      have hgrown : l.window.entries ++ [p.entry] <:+ l.entries ++ [p.entry] := by
        obtain ⟨older, holder⟩ := h.suffix
        exact ⟨older, by rw [← holder, List.append_assoc]⟩
      rw [hentries, hwindow]
      exact (History.keepLast_suffix p.limit _).trans hgrown
    · rw [hentries, History.newest?_push hp hpush, List.getLast?_concat]
    · rw [hentries]
      refine History.ascending_concat h.ascending fun a ha => ?_
      have hall := (h.accepts_iff p.entry).mp haccepts
      exact hall a (List.mem_of_getLast? ha)
    · intro q hq
      rw [List.getLast?_concat, Option.mem_some_iff] at hq
      rw [← hq, History.size_push hpush]
      exact Nat.min_le_left _ _

theorem sound_foldl (h : l.Sound) (hp : ∀ p ∈ pushes, 1 ≤ p.limit) :
    (pushes.foldl Ledger.push l).Sound := by
  induction pushes generalizing l with
  | nil => exact h
  | cons p pushes ih =>
    obtain ⟨hfirst, hrest⟩ := List.forall_mem_cons.mp hp
    exact ih (h.push hfirst) hrest

/-! ## One limit -/

/-- With one limit the window has as many entries as there are, up to the limit. -/
theorem size_push_of_size {n : Nat} (h : l.window.size = min n l.accepted.length)
    (hp : p.limit = n) : (l.push p).window.size = min n (l.push p).accepted.length := by
  cases hpush : l.window.push? p.entry p.limit with
  | none =>
    rw [push_of_none hpush]
    exact h
  | some window =>
    rw [push_of_some hpush, History.size_push hpush, List.length_append, List.length_singleton,
      hp, h]
    omega

theorem size_foldl {n : Nat} (h : l.window.size = min n l.accepted.length)
    (hp : ∀ p ∈ pushes, p.limit = n) :
    (pushes.foldl Ledger.push l).window.size =
      min n (pushes.foldl Ledger.push l).accepted.length := by
  induction pushes generalizing l with
  | nil => exact h
  | cons p pushes ih =>
    obtain ⟨hfirst, hrest⟩ := List.forall_mem_cons.mp hp
    exact ih (size_push_of_size h hfirst) hrest

/-- An end of a list is told by its length. -/
theorem eq_keepLast_of_suffix {n : Nat} {short long : List Attendance} (h : short <:+ long)
    (hlength : short.length = min n long.length) : short = History.keepLast n long := by
  obtain ⟨older, rfl⟩ := h
  have hcount : (older ++ short).length - n = older.length := by
    rw [List.length_append] at hlength ⊢
    omega
  rw [History.keepLast, hcount, List.drop_left]

end Ledger

/-! ## The window of a run -/

/-- After any pushes, each of which keeps at least one entry: the next push is accepted exactly if
its height exceeds that of every push accepted before, and a push that is refused changes nothing.
The window is in strictly ascending order, is an end of the accepted entries, and is within the
limit of the last accepted push. If all pushes have one limit, the window holds as many of the last
accepted entries as the limit allows. -/
theorem Ledger.window_eq_end {pushes : List Push} (hp : ∀ p ∈ pushes, 1 ≤ p.limit) :
    let l := ofPushes pushes
    (∀ p : Push,
      ((l.window.push? p.entry p.limit).isSome = true ↔
          ∀ a ∈ l.accepted, a.entry.height < p.entry.height) ∧
        ((l.window.push? p.entry p.limit).isSome = false → l.push p = l)) ∧
      l.window.entries.Pairwise (·.height < ·.height) ∧
      l.window.entries <:+ l.accepted.map Push.entry ∧
      (∀ last ∈ l.accepted.getLast?, l.window.size ≤ last.limit) ∧
      ∀ n, (∀ p ∈ pushes, p.limit = n) →
        l.window.size = min n l.accepted.length ∧
          l.window.entries = (l.accepted.map Push.entry).drop (l.accepted.length - n) := by
  intro l
  have hsound : l.Sound := sound_foldl sound_empty hp
  refine ⟨fun p => ⟨?_, ?_⟩, ?_, hsound.suffix, hsound.bounded, fun n hn => ?_⟩
  · have haccepts : (l.window.push? p.entry p.limit).isSome = true ↔
        l.window.accepts p.entry = true := by
      by_cases ha : l.window.accepts p.entry <;> simp [History.push?, ha]
    rw [haccepts, hsound.accepts_iff, entries, List.forall_mem_map]
  · intro hrefused
    exact push_of_none (by simpa using hrefused)
  · exact hsound.ascending.sublist hsound.suffix.sublist
  · have hsize : l.window.size = min n l.accepted.length :=
      size_foldl (l := ⟨.empty, []⟩) (by simp [History.size, History.empty]) hn
    have hlength : l.window.entries.length = min n l.entries.length := by
      rw [entries, List.length_map]
      exact hsize
    refine ⟨hsize, ?_⟩
    rw [eq_keepLast_of_suffix hsound.suffix hlength, History.keepLast, entries, List.length_map]

/-- Three heights are kept of four, a height that was dropped does not come back, and a smaller
limit drops two more. -/
theorem Ledger.window_eq_end_of_change :
    let pushes : List Push :=
      [⟨⟨5, true⟩, 3⟩, ⟨⟨6, false⟩, 3⟩, ⟨⟨8, true⟩, 3⟩, ⟨⟨7, true⟩, 3⟩, ⟨⟨9, true⟩, 3⟩,
        ⟨⟨5, false⟩, 9⟩, ⟨⟨12, true⟩, 2⟩]
    let l := ofPushes pushes
    (∀ p ∈ pushes, 1 ≤ p.limit) ∧ l.accepted.map (·.entry.height) = [5, 6, 8, 9, 12] ∧
      l.window.entries = [⟨9, true⟩, ⟨12, true⟩] ∧
      l.window.entries <:+ l.accepted.map Push.entry ∧
      ¬ (l.window.push? ⟨12, false⟩ 9).isSome = true := by
  intro pushes l
  have hp : ∀ p ∈ pushes, 1 ≤ p.limit := by decide
  obtain ⟨hpush, -, hsuffix, -, -⟩ := window_eq_end hp
  refine ⟨hp, by decide, by decide, hsuffix, ?_⟩
  rw [(hpush ⟨⟨12, false⟩, 9⟩).1]
  decide

end Liveness
