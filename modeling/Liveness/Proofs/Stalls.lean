import Mathlib.Data.List.Induction
import Mathlib.Data.List.SplitBy
import Liveness.Stream.Watchdog

/-!
# Each stall is reported once

Events are cut into segments: a new connection starts one, and so does a look at another height than
before. In each segment the second event, which is a look, reports a stall, and no other event does.
-/

namespace Liveness.Watchdog

namespace Event

/-- The height that an event shows. -/
def height : Event → Nat
  | tick height => height
  | rearm height => height

/-- The event is a look. -/
def isTick : Event → Bool
  | tick _ => true
  | rearm _ => false

@[simp] theorem height_tick (h : Nat) : (tick h).height = h := rfl

@[simp] theorem height_rearm (h : Nat) : (rearm h).height = h := rfl

@[simp] theorem isTick_tick (h : Nat) : (tick h).isTick = true := rfl

@[simp] theorem isTick_rearm (h : Nat) : (rearm h).isTick = false := rfl

theorem eq_tick {e : Event} (h : e.isTick = true) : e = tick e.height := by
  cases e with
  | tick height => rfl
  | rearm height => cases h

/-- The second event is a look at the height of the first. -/
def repeats (d e : Event) : Bool := e.isTick && d.height == e.height

end Event

variable {w : Watchdog} {es : List Event} {e : Event}

/-- The watchdog after a list of events. -/
def after (w : Watchdog) (es : List Event) : Watchdog := es.foldl (fun w e => (w.step e).2) w

theorem after_append (w : Watchdog) (es fs : List Event) :
    after w (es ++ fs) = after (after w es) fs :=
  List.foldl_append

theorem run_append (w : Watchdog) (es fs : List Event) :
    run w (es ++ fs) = run w es ++ run (after w es) fs := by
  induction es generalizing w with
  | nil => rfl
  | cons e es ih => exact congrArg ((w.step e).1 :: ·) (ih (w.step e).2)

theorem length_run (w : Watchdog) (es : List Event) : (run w es).length = es.length := by
  induction es generalizing w with
  | nil => rfl
  | cons e es ih => simp [run, ih]

/-! ## The two events before -/

theorem pair_suffix_concat_iff {d f : Event} :
    [d, f] <:+ es ++ [e] ↔ es.getLast? = some d ∧ f = e := by
  rw [List.suffix_concat_iff, ← List.singleton_suffix_iff_getLast?_eq_some]
  constructor
  · rintro (hnil | ⟨t, ht, hsuffix⟩)
    · cases hnil
    · have ht : [d] ++ [f] = t ++ [e] := ht
      obtain ⟨rfl, hlast⟩ := List.append_inj' ht rfl
      exact ⟨hsuffix, List.head_eq_of_cons_eq hlast⟩
  · rintro ⟨hsuffix, rfl⟩
    exact .inr ⟨[d], rfl, hsuffix⟩

/-- What a watchdog remembers of the events so far, the last of which is `e`: its height, and
whether it was a look at the height before it. -/
structure Recalls (w : Watchdog) (es : List Event) (e : Event) : Prop where
  seen : w.seen = e.height
  fired : w.fired = true ↔ e.isTick = true ∧ es.getLast?.map Event.height = some e.height

theorem recalls_rearmed (height : Nat) : Recalls (rearmed height) es (.rearm height) :=
  ⟨rfl, by simp [rearmed]⟩

theorem Recalls.step (hw : Recalls w es e) (f : Event) : Recalls (w.step f).2 (es ++ [e]) f := by
  cases f with
  | rearm height => exact recalls_rearmed height
  | tick height =>
    show Recalls (w.tick height).2 _ _
    by_cases hseen : height = w.seen
    · subst hseen
      rw [Watchdog.tick, if_pos rfl]
      exact ⟨rfl, by simp [hw.seen]⟩
    · rw [Watchdog.tick, if_neg hseen]
      exact ⟨rfl, by simp [rearmed, ← hw.seen, Ne.symm hseen]⟩

theorem exists_recalls_after (es : List Event) :
    ∃ before e, .rearm 0 :: es = before ++ [e] ∧ (e.isTick = true → before ≠ []) ∧
      Recalls (after fresh es) before e := by
  induction es using List.reverseRecOn with
  | nil => exact ⟨[], .rearm 0, rfl, nofun, recalls_rearmed 0⟩
  | append_singleton es f ih =>
    obtain ⟨before, e, hes, -, hw⟩ := ih
    refine ⟨before ++ [e], f, ?_, by simp, ?_⟩
    · rw [← List.cons_append, hes]
    · rw [after_append]
      exact hw.step f

/-- A look reports a stall if it is the second event at its height: the event before it was a new
connection, or a look at another height than before. -/
theorem fires_iff (es : List Event) (height : Nat) :
    ((after fresh es).tick height).1 = true ↔
      [.rearm height] <:+ .rearm 0 :: es ∨
        ∃ d, [d, .tick height] <:+ .rearm 0 :: es ∧ d.height ≠ height := by
  obtain ⟨before, e, hes, hbefore, hw⟩ := exists_recalls_after es
  rw [hes, List.singleton_suffix_iff_getLast?_eq_some, List.getLast?_concat]
  simp only [pair_suffix_concat_iff]
  rw [Watchdog.tick]
  cases e with
  | rearm k =>
    have hseen : (after fresh es).seen = k := hw.seen
    have hfired : (after fresh es).fired = false := by simpa using hw.fired
    by_cases hk : height = k <;> simp [hseen, hfired, hk, eq_comm]
  | tick k =>
    have hseen : (after fresh es).seen = k := hw.seen
    have hd := List.getLast?_eq_some_getLast (hbefore rfl)
    have hfired : (after fresh es).fired = true ↔ (before.getLast (hbefore rfl)).height = k := by
      simpa [hd] using hw.fired
    by_cases hk : height = k
    · subst hk
      simp [hseen, hd, ← hfired]
    · simp [hseen, hd, hk]

/-! ## Segments -/

/-- The segments of equal heights; a new connection starts a segment. -/
def segments (es : List Event) : List (List Event) :=
  es.splitBy Event.repeats

/-- The answers of a segment in which the second event alone reports a stall. -/
def answers (segment : List Event) : List (Option Bool) :=
  segment.mapIdx fun i e => if e.isTick then some (i == 1) else none

/-- After its first event a segment holds looks at one height. -/
theorem eq_replicate_of_isChain {rest : List Event}
    (h : (e :: rest).IsChain (Event.repeats · ·)) :
    rest = List.replicate rest.length (.tick e.height) := by
  induction rest generalizing e with
  | nil => rfl
  | cons f rest ih =>
    obtain ⟨hf, hrest⟩ := List.isChain_cons_cons.mp h
    obtain ⟨htick, hheight⟩ := Bool.and_eq_true_iff.mp hf
    have heq : e.height = f.height := beq_iff_eq.mp hheight
    rw [List.length_cons, List.replicate_succ, heq]
    exact congrArg₂ List.cons (Event.eq_tick htick) (ih hrest)

theorem height_of_isChain {rest : List Event} {d : Event}
    (h : (e :: rest).IsChain (Event.repeats · ·)) (hd : d ∈ e :: rest) :
    d.height = e.height := by
  rw [eq_replicate_of_isChain h] at hd
  rcases List.mem_cons.mp hd with rfl | hd
  · rfl
  · rw [List.eq_of_mem_replicate hd, Event.height_tick]

/-- A stall that was reported is not reported again. -/
theorem run_replicate (h n : Nat) :
    run ⟨h, true⟩ (List.replicate n (.tick h)) = List.replicate n (some false) ∧
      after ⟨h, true⟩ (List.replicate n (.tick h)) = ⟨h, true⟩ := by
  have hstep : (⟨h, true⟩ : Watchdog).step (.tick h) = (some false, ⟨h, true⟩) := by
    simp [Watchdog.step, Watchdog.tick]
  induction n with
  | zero => exact ⟨rfl, rfl⟩
  | succ n ih =>
    obtain ⟨hrun, hafter⟩ := ih
    rw [List.replicate_succ, List.replicate_succ, run, hstep]
    exact ⟨congrArg (some false :: ·) hrun, by rw [after, List.foldl_cons, hstep]; exact hafter⟩

theorem answers_replicate (e : Event) (h n : Nat) :
    answers (e :: .tick h :: List.replicate n (.tick h)) =
      (if e.isTick then some false else none) :: some true :: List.replicate n (some false) := by
  simp only [answers, List.mapIdx_cons, Event.isTick_tick, if_true]
  refine congrArg₂ _ rfl (congrArg₂ _ rfl (List.ext_getElem (by simp) fun i hi _ => ?_))
  simp

theorem step_of_start (h : e.isTick = true → w.seen ≠ e.height) :
    w.step e = (if e.isTick then some false else none, rearmed e.height) := by
  cases e with
  | rearm height => rfl
  | tick height =>
    have hne : height ≠ w.seen := fun heq => h rfl heq.symm
    simp [Watchdog.step, Watchdog.tick, hne]

/-- The answers to a whole segment. -/
theorem run_segment {rest : List Event}
    (hchain : (e :: rest).IsChain (Event.repeats · ·))
    (hstart : e.isTick = true → w.seen ≠ e.height) :
    run w (e :: rest) = answers (e :: rest) ∧ (after w (e :: rest)).seen = e.height := by
  rw [eq_replicate_of_isChain hchain]
  cases rest.length with
  | zero =>
    rw [List.replicate_zero, run, step_of_start hstart, after, List.foldl_cons,
      step_of_start hstart]
    exact ⟨rfl, rfl⟩
  | succ n =>
    have hfires : (rearmed e.height).step (.tick e.height) = (some true, ⟨e.height, true⟩) := by
      simp [Watchdog.step, Watchdog.tick, rearmed]
    obtain ⟨hrun, hafter⟩ := run_replicate e.height n
    rw [List.replicate_succ, answers_replicate, run, step_of_start hstart, run, hfires, after,
      List.foldl_cons, step_of_start hstart, List.foldl_cons, hfires]
    exact ⟨by rw [hrun], congrArg seen hafter⟩

/-- The answers to segments one after another. -/
theorem run_flatten {segments : List (List Event)} (hne : [] ∉ segments)
    (hchain : ∀ s ∈ segments, s.IsChain (Event.repeats · ·))
    (hbreak : segments.IsChain fun s t =>
      ∃ hs ht, Event.repeats (s.getLast hs) (t.head ht) = false)
    (hstart : ∀ e ∈ segments.flatten.head?, e.isTick = true → w.seen ≠ e.height) :
    run w segments.flatten = segments.flatMap answers := by
  induction segments generalizing w with
  | nil => rfl
  | cons s segments ih =>
    obtain ⟨hs, hrest⟩ := not_or.mp (List.mem_cons.not.mp hne)
    obtain ⟨e, rest, rfl⟩ := List.exists_cons_of_ne_nil (Ne.symm hs)
    obtain ⟨hfirst, hothers⟩ := List.forall_mem_cons.mp hchain
    obtain ⟨hnext, hbreak⟩ := List.isChain_cons.mp hbreak
    obtain ⟨hrun, hseen⟩ := run_segment hfirst (hstart e rfl)
    rw [List.flatten_cons, List.flatMap_cons, run_append, hrun]
    refine congrArg _ (ih hrest hothers hbreak fun f hf htick => ?_)
    -- the event after a segment starts the next one
    cases segments with
    | nil => cases hf
    | cons t segments =>
      obtain ⟨hlast, ht, hcut⟩ := hnext t rfl
      obtain ⟨g, tail, rfl⟩ := List.exists_cons_of_ne_nil ht
      obtain rfl : g = f := by simpa using hf
      rw [List.head_cons, Event.repeats, htick, Bool.true_and, beq_eq_false_iff_ne] at hcut
      rwa [hseen, ← height_of_isChain hfirst (List.getLast_mem hlast)]

/-- A watchdog that starts with a new connection at height zero reports a stall exactly at a look
that is the second event at its height: the event before it was a new connection at this height, or
a look at this height right after an event at another one. So in each segment of events at one
height the second event, if there is one, reports a stall, and no other event does. -/
theorem fires_iff_second :
    (∀ (past : List Event) (height : Nat) (rest : List Event),
      (run fresh (past ++ .tick height :: rest))[past.length]? = some (some true) ↔
        [.rearm height] <:+ .rearm 0 :: past ∨
          ∃ d, [d, .tick height] <:+ .rearm 0 :: past ∧ d.height ≠ height) ∧
    ∀ es : List Event, none :: run fresh es = (segments (.rearm 0 :: es)).flatMap answers := by
  constructor
  · intro past height rest
    rw [← fires_iff, run_append, List.getElem?_append_right (length_run fresh past).le,
      length_run, Nat.sub_self, run, List.getElem?_cons_zero]
    simp [Watchdog.step]
  · intro es
    have hrun := run_flatten (w := fresh) (List.nil_notMem_splitBy Event.repeats (.rearm 0 :: es))
      (fun s => List.isChain_of_mem_splitBy)
      (List.isChain_getLast_head_splitBy Event.repeats (.rearm 0 :: es))
    rw [List.flatten_splitBy] at hrun
    refine hrun fun e he htick => ?_
    obtain rfl : Event.rearm 0 = e := by simpa using he
    cases htick

/-- A stall, the same height again after a new connection, and again after another height. -/
example :
    run fresh [.tick 0, .tick 0, .tick 7, .tick 7, .rearm 7, .tick 7, .tick 8, .tick 7, .tick 7] =
      [some true, some false, some false, some true, none, some true, some false, some false,
        some true] := by
  decide

end Liveness.Watchdog
