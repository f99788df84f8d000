import Mathlib.Data.List.Induction
import Mathlib.Order.Bounds.Basic
import Mathlib.Tactic.Common
import Liveness.Proofs.Observe

/-!
# Streaks over whole runs

The tracking of a validator keeps one counter and one height. Here it is compared with the
transcript of all that happened: the heights that were accepted, and the accepted observations made
outside jail since the last restart. The counter is the length of the longest row of directly
consecutive misses that ends at the newest one.
-/

namespace Liveness

/-- What happens to the tracking of one validator. -/
inductive Tracking.Call where
  /-- A block was observed. -/
  | observe (height : Nat) (found jailed : Bool) (window : Float)
  /-- The validator left jail. -/
  | restart

/-- Blocks have positive heights. -/
def Tracking.Call.Positive : Call → Prop
  | .observe height _ _ _ => 1 ≤ height
  | .restart => True

/-- The tracking after one call. -/
def Tracking.call (limit : Nat) (t : Tracking) : Call → Tracking
  | .observe height found jailed window => (t.observe height found jailed window limit).1
  | .restart => t.restart

/-- The tracking after a run of calls. -/
def Tracking.run (limit : Nat) (calls : List Call) : Tracking := calls.foldl (call limit) fresh

/-- An accepted observation of a validator outside jail. -/
structure Sighting where
  /-- The height of the block. -/
  height : Nat
  /-- The vote was present. -/
  found : Bool
  /-- The slashing window at that time. -/
  window : Float

/-- What a run of calls tells by itself. -/
structure Transcript where
  /-- The heights that were accepted, oldest first. -/
  heights : List Nat
  /-- The accepted observations outside jail since the last restart, oldest first. -/
  sightings : List Sighting

namespace Transcript

/-- A height is accepted if it exceeds every height accepted before. -/
def Accepts (s : Transcript) (height : Nat) : Prop := ∀ h ∈ s.heights, h < height

instance (s : Transcript) (height : Nat) : Decidable (s.Accepts height) :=
  inferInstanceAs (Decidable (∀ h ∈ s.heights, h < height))

/-- The transcript with one more call. -/
def next (s : Transcript) : Tracking.Call → Transcript
  | .observe height found jailed window =>
    if s.Accepts height then
      { heights := s.heights ++ [height]
        sightings := if jailed then s.sightings else s.sightings ++ [⟨height, found, window⟩] }
    else s
  | .restart => { s with sightings := [] }

/-- The transcript of a run. -/
def ofCalls (calls : List Tracking.Call) : Transcript := calls.foldl next ⟨[], []⟩

/-- The misses. -/
def misses (s : Transcript) : List Sighting := s.sightings.filter (!·.found)

/-- The heights `height`, `height - 1`, ... are those of misses, `k` of them. -/
def MissesBack (s : Transcript) (height k : Nat) : Prop :=
  ∀ i < k, height - i ∈ s.misses.map (·.height)

/-- The length of the streak: none without a sighting or after a vote that was present, and
otherwise the longest row of misses that ends at the newest one. -/
def IsStreak (s : Transcript) (k : Nat) : Prop :=
  match s.sightings.getLast? with
  | none => k = 0
  | some v => if v.found then k = 0 else IsGreatest {k | s.MissesBack v.height k} k

/-- The height of the newest miss, zero if there was none. -/
def lastMissed (s : Transcript) : Nat := (s.misses.getLast?.map (·.height)).getD 0

end Transcript

/-! ## The invariant -/

/-- The tracking `t` is what the transcript `s` calls for. The two orders say that what is sighted
later is higher; without them a gap could not be told from a direct successor. -/
structure Transcript.Tracks (s : Transcript) (t : Tracking) : Prop where
  newest : t.history.newest?.map (·.height) = s.heights.getLast?
  ascending : s.heights.Pairwise (· < ·)
  accepted : ∀ v ∈ s.sightings, v.height ∈ s.heights
  ordered : s.sightings.Pairwise (·.height < ·.height)
  positive : ∀ v ∈ s.sightings, 1 ≤ v.height
  streak : s.IsStreak t.counter
  missed : t.lastMissed = s.lastMissed
  calm : t.counter = 0 → t.level = 1
  level : t.counter ≠ 0 → ∀ v ∈ s.misses.getLast?, t.level = alertLevel t.counter v.window

namespace Transcript

variable {s : Transcript} {t : Tracking} {limit : Nat}

/-- The history and the transcript accept the same heights. -/
theorem Tracks.accepts_iff (hs : s.Tracks t) (height : Nat) (found : Bool) :
    t.history.accepts ⟨height, found⟩ = true ↔ s.Accepts height := by
  rw [History.accepts_iff, Accepts, History.forall_lt_iff_of_ascending hs.ascending, ← hs.newest]
  simp

theorem exists_last {l : List Sighting} {v : Sighting} (hv : v ∈ l) : ∃ u, l.getLast? = some u :=
  ⟨_, List.getLast?_eq_some_getLast (List.ne_nil_of_mem hv)⟩

/-- Among sightings in order the last one is the highest. -/
theorem eq_or_lt_last {l : List Sighting} (hl : l.Pairwise (·.height < ·.height)) {u v : Sighting}
    (hu : l.getLast? = some u) (hv : v ∈ l) : v = u ∨ v.height < u.height := by
  obtain ⟨l, rfl⟩ := List.getLast?_eq_some_iff.mp hu
  rcases List.mem_append.mp hv with hv | hv
  · exact Or.inr ((List.pairwise_append.mp hl).2.2 v hv u (by simp))
  · exact Or.inl (by simpa using hv)

/-! ## The streak at a miss -/

/-- The transcript after a miss at `height`. -/
def miss (s : Transcript) (height : Nat) (window : Float) : Transcript :=
  { heights := s.heights ++ [height], sightings := s.sightings ++ [⟨height, false, window⟩] }

@[simp] theorem misses_miss (height : Nat) (window : Float) :
    (s.miss height window).misses = s.misses ++ [⟨height, false, window⟩] := by
  simp [misses, miss]

/-- A row of misses that ends at a new miss is a row that ends just below it, and the new miss. -/
theorem missesBack_miss_succ {height : Nat} {window : Float} (hpos : 1 ≤ height) (k : Nat) :
    (s.miss height window).MissesBack height (k + 1) ↔ s.MissesBack (height - 1) k := by
  simp only [MissesBack, misses_miss, List.map_append, List.mem_append, List.map_cons, List.map_nil,
    List.mem_singleton]
  constructor
  · intro h i hi
    rcases h (i + 1) (by omega) with hm | hm
    · rwa [show height - 1 - i = height - (i + 1) by omega]
    · omega
  · intro h i hi
    rcases i with _ | i
    · exact Or.inr (by omega)
    · rw [show height - (i + 1) = height - 1 - i by omega]
      exact Or.inl (h i (by omega))

theorem isGreatest_missesBack_miss {height c : Nat} (window : Float) (hpos : 1 ≤ height)
    (h : IsGreatest {k | s.MissesBack (height - 1) k} c) :
    IsGreatest {k | (s.miss height window).MissesBack height k} (c + 1) := by
  refine ⟨(missesBack_miss_succ hpos c).mpr h.1, fun k hk => ?_⟩
  rcases k with _ | k
  · omega
  · exact Nat.succ_le_succ (h.2 ((missesBack_miss_succ hpos k).mp hk))

/-- The row of misses that ends just below a new height is the running streak if the newest miss is
there, and empty otherwise. -/
theorem Tracks.isGreatest_before (hs : s.Tracks t) {height : Nat} (ha : s.Accepts height) :
    IsGreatest {k | s.MissesBack (height - 1) k}
      (if t.lastMissed ≠ 0 ∧ height = t.lastMissed + 1 then t.counter else 0) := by
  have hlt : ∀ v ∈ s.sightings, v.height < height := fun v hv => ha _ (hs.accepted v hv)
  have hsub : ∀ v ∈ s.misses, v ∈ s.sightings := fun v hv => (List.mem_filter.mp hv).1
  split_ifs with hc
  · obtain ⟨v, hv, hvh⟩ : ∃ v, s.misses.getLast? = some v ∧ v.height = t.lastMissed := by
      have hm := hs.missed
      rw [lastMissed] at hm
      cases hg : s.misses.getLast? with
      | none => rw [hg] at hm; exact absurd hm hc.1
      | some v => exact ⟨v, rfl, by rw [hm, hg]; rfl⟩
    have hvm : v ∈ s.misses := List.mem_of_getLast? hv
    obtain ⟨u, hu⟩ := exists_last (hsub v hvm)
    have huv : v = u := by
      rcases eq_or_lt_last hs.ordered hu (hsub v hvm) with h | h
      · exact h
      · have := hlt u (List.mem_of_getLast? hu)
        omega
    have hstreak := hs.streak
    rw [IsStreak, hu, ← huv] at hstreak
    have hfound : v.found = false := by simpa using (List.mem_filter.mp hvm).2
    rw [show height - 1 = v.height by omega]
    simpa [hfound] using hstreak
  · refine ⟨fun i hi => absurd hi (Nat.not_lt_zero i), fun k hk => ?_⟩
    by_contra hk0
    obtain ⟨v, hv, hvh⟩ := List.mem_map.mp (hk 0 (by omega))
    obtain ⟨u, hu⟩ := exists_last hv
    have hmu : t.lastMissed = u.height := by rw [hs.missed, lastMissed, hu]; rfl
    have hum := List.mem_of_getLast? hu
    have h1 := hs.positive u (hsub u hum)
    have h2 := hlt u (hsub u hum)
    rcases eq_or_lt_last (hs.ordered.filter _) hu hv with rfl | h
    · exact hc ⟨by omega, by omega⟩
    · omega

/-! ## Each call keeps the invariant -/

section Step

variable {height : Nat} {window : Float} {history : History}

theorem Tracks.fresh : Tracks ⟨[], []⟩ Tracking.fresh where
  newest := rfl
  ascending := List.Pairwise.nil
  accepted := by simp
  ordered := List.Pairwise.nil
  positive := by simp
  streak := rfl
  missed := rfl
  calm := fun _ => rfl
  level := fun h => absurd rfl h

theorem Tracks.restart (hs : s.Tracks t) : Tracks { s with sightings := [] } t.restart where
  newest := hs.newest
  ascending := hs.ascending
  accepted := by simp
  ordered := List.Pairwise.nil
  positive := by simp
  streak := rfl
  missed := rfl
  calm := fun _ => rfl
  level := fun h => absurd rfl h

theorem ascending_append (hs : s.Tracks t) (ha : s.Accepts height) :
    (s.heights ++ [height]).Pairwise (· < ·) := by
  rw [List.pairwise_append]
  exact ⟨hs.ascending, List.pairwise_singleton _ _, fun a h b hb => by
    rw [List.mem_singleton.mp hb]; exact ha a h⟩

/-- In jail the history grows, and nothing is sighted. -/
theorem Tracks.jailed (hs : s.Tracks t) (ha : s.Accepts height)
    (hn : history.newest?.map (·.height) = some height) :
    Tracks { s with heights := s.heights ++ [height] } { t with history := history } where
  newest := by rw [hn]; simp
  ascending := ascending_append hs ha
  accepted := fun v hv => List.mem_append_left _ (hs.accepted v hv)
  ordered := hs.ordered
  positive := hs.positive
  streak := hs.streak
  missed := hs.missed
  calm := hs.calm
  level := hs.level

/-- One more sighting is in order. -/
theorem ordered_append (hs : s.Tracks t) (ha : s.Accepts height) (found : Bool) :
    (s.sightings ++ [(⟨height, found, window⟩ : Sighting)]).Pairwise (·.height < ·.height) := by
  rw [List.pairwise_append]
  refine ⟨hs.ordered, List.pairwise_singleton _ _, fun v hv u hu => ?_⟩
  rw [List.mem_singleton.mp hu]
  exact ha _ (hs.accepted v hv)

theorem Tracks.attended (hs : s.Tracks t) (ha : s.Accepts height) (hpos : 1 ≤ height)
    (hn : history.newest?.map (·.height) = some height) :
    Tracks ⟨s.heights ++ [height], s.sightings ++ [⟨height, true, window⟩]⟩
      ({ t with history := history } : Tracking).resetStreak where
  newest := by
    show history.newest?.map (·.height) = _
    rw [hn]; simp
  ascending := ascending_append hs ha
  accepted := by
    intro v hv
    rcases List.mem_append.mp hv with hv | hv
    · exact List.mem_append_left _ (hs.accepted v hv)
    · rw [List.mem_singleton.mp hv]; simp
  ordered := ordered_append hs ha true
  positive := by
    intro v hv
    rcases List.mem_append.mp hv with hv | hv
    · exact hs.positive v hv
    · rw [List.mem_singleton.mp hv]; exact hpos
  streak := by simp [IsStreak, Tracking.resetStreak]
  missed := by simpa [lastMissed, misses, Tracking.resetStreak] using hs.missed
  calm := fun _ => rfl
  level := fun h => absurd rfl h

/-- The counter after a miss is one more than the row of misses that ends just below it. -/
theorem nextCounter_eq (t : Tracking) (height : Nat) :
    t.nextCounter height =
      (if t.lastMissed ≠ 0 ∧ height = t.lastMissed + 1 then t.counter else 0) + 1 := by
  rw [Tracking.nextCounter]
  split_ifs <;> rfl

theorem Tracks.miss (hs : s.Tracks t) (ha : s.Accepts height) (hpos : 1 ≤ height)
    (hn : history.newest?.map (·.height) = some height) :
    (s.miss height window).Tracks
      (({ t with history := history } : Tracking).missBy .native height window).1 where
  newest := by
    show history.newest?.map (·.height) = _
    rw [hn]; simp [Transcript.miss]
  ascending := ascending_append hs ha
  accepted := by
    intro v hv
    rcases List.mem_append.mp hv with hv | hv
    · exact List.mem_append_left _ (hs.accepted v hv)
    · rw [List.mem_singleton.mp hv]; exact List.mem_append_right _ (List.mem_singleton_self _)
  ordered := ordered_append hs ha false
  positive := by
    intro v hv
    rcases List.mem_append.mp hv with hv | hv
    · exact hs.positive v hv
    · rw [List.mem_singleton.mp hv]; exact hpos
  streak := by
    have hg := isGreatest_missesBack_miss window hpos (hs.isGreatest_before ha)
    rw [← nextCounter_eq] at hg
    rw [IsStreak, Transcript.miss, List.getLast?_concat]
    exact hg
  missed := by simp [lastMissed, Tracking.missBy]
  calm := by
    intro h
    have h : t.nextCounter height = 0 := h
    rw [nextCounter_eq] at h
    exact absurd h (Nat.succ_ne_zero _)
  level := by
    intro _ v hv
    rw [misses_miss, List.getLast?_concat] at hv
    obtain rfl : _ = v := Option.some.inj hv
    rfl

end Step

/-- One call keeps the tracking and the transcript together. -/
theorem Tracks.next (hl : 1 ≤ limit) (hs : s.Tracks t) {c : Tracking.Call} (hc : c.Positive) :
    (s.next c).Tracks (t.call limit c) := by
  cases c with
  | restart => exact hs.restart
  | observe height found jailed window =>
    rw [Tracking.call, Tracking.observe, Transcript.next]
    by_cases ha : s.Accepts height
    · have hacc := (hs.accepts_iff height found).mpr ha
      obtain ⟨history, hp⟩ := History.exists_push hacc limit
      have hn : history.newest?.map (·.height) = some height := by
        rw [History.newest?_push hl hp]; rfl
      rw [if_pos ha, Tracking.observeBy_of_push hp]
      cases jailed
      · cases found
        · exact hs.miss ha hc hn
        · exact hs.attended ha hc hn
      · exact hs.jailed ha hn
    · have hacc : t.history.accepts ⟨height, found⟩ = false := by
        simpa using mt (hs.accepts_iff height found).mp ha
      rw [if_neg ha, Tracking.observeBy_of_not_accepts hacc]
      exact hs

/-- A running streak ends at a miss. -/
theorem Tracks.exists_miss (hs : s.Tracks t) (h0 : t.counter ≠ 0) :
    ∃ v, s.misses.getLast? = some v := by
  have hstreak := hs.streak
  rw [IsStreak] at hstreak
  cases hg : s.sightings.getLast? with
  | none =>
    rw [hg] at hstreak
    exact absurd hstreak h0
  | some v =>
    rw [hg] at hstreak
    cases hf : v.found with
    | true =>
      simp only [hf, if_true] at hstreak
      exact absurd hstreak h0
    | false =>
      exact exists_last (List.mem_filter.mpr ⟨List.mem_of_getLast? hg, by simp [hf]⟩)

/-- A run keeps the tracking and the transcript together. -/
theorem tracks_run (hl : 1 ≤ limit) (calls : List Tracking.Call) (hc : ∀ c ∈ calls, c.Positive) :
    (ofCalls calls).Tracks (Tracking.run limit calls) := by
  induction calls using List.reverseRecOn with
  | nil => exact Tracks.fresh
  | append_singleton calls c ih =>
    have hcalls := ih fun c' hc' => hc c' (List.mem_append_left _ hc')
    rw [ofCalls, Tracking.run, List.foldl_append, List.foldl_append]
    exact hcalls.next hl (hc c (by simp))

end Transcript

/-! ## The streak of a run -/

/-- After every run of observations and restarts: an observation is stale, and changes nothing,
exactly if its height is not accepted; the counter is the length of the streak that the transcript
tells; the last miss is the newest one since the last restart; and the level is one without a streak
and otherwise the level of the counter against the window of the newest miss. -/
theorem Tracking.run_eq_transcript {limit : Nat} (hl : 1 ≤ limit) (calls : List Call)
    (hc : ∀ c ∈ calls, c.Positive) :
    (∀ height found jailed window,
      (((run limit calls).observe height found jailed window limit).2 = .stale ↔
        ¬ (Transcript.ofCalls calls).Accepts height) ∧
      (¬ (Transcript.ofCalls calls).Accepts height →
        ((run limit calls).observe height found jailed window limit).1 = run limit calls)) ∧
    (Transcript.ofCalls calls).IsStreak (run limit calls).counter ∧
    (run limit calls).lastMissed = (Transcript.ofCalls calls).lastMissed ∧
    ((run limit calls).counter = 0 → (run limit calls).level = 1) ∧
    ((run limit calls).counter ≠ 0 → ∃ v, (Transcript.ofCalls calls).misses.getLast? = some v ∧
      (run limit calls).level = alertLevel (run limit calls).counter v.window) := by
  have hs := Transcript.tracks_run hl calls hc
  refine ⟨fun height found jailed window => ⟨?_, fun ha => ?_⟩, hs.streak, hs.missed, hs.calm,
    fun h0 => ?_⟩
  · rw [observe, observeBy_eq_stale_iff, ← hs.accepts_iff height found, Bool.not_eq_true]
  · rw [← hs.accepts_iff height found, Bool.not_eq_true] at ha
    rw [observe, observeBy_of_not_accepts ha]
  · obtain ⟨v, hv⟩ := hs.exists_miss h0
    exact ⟨v, hv, hs.level h0 v hv⟩

/-- Two misses, a stale one, one in jail, a miss behind that gap, a restart, and two misses again: a
history of two entries is enough to count the last two. -/
theorem Tracking.run_eq_transcript_after_gap :
    let calls : List Call :=
      [.observe 5 false false 100.0, .observe 6 false false 100.0, .observe 6 false false 100.0,
        .observe 7 false true 100.0, .observe 8 false false 50.0, .restart,
        .observe 9 false false 50.0, .observe 10 false false 50.0]
    (∀ c ∈ calls, c.Positive) ∧ (Transcript.ofCalls calls).IsStreak (run 2 calls).counter ∧
      (run 2 calls).counter = 2 := by
  intro calls
  have hc : ∀ c ∈ calls, c.Positive := by simp [calls, Call.Positive]
  exact ⟨hc, (run_eq_transcript (by decide) calls hc).2.1, rfl⟩

end Liveness
