import Liveness.Alert
import Liveness.Proofs.History

/-!
# One observation

What an observation can do to the tracking of a validator, said once: it is stale, or the history
grows and, outside jail, the streak ends or goes on.
-/

namespace Liveness.Tracking

variable {m : Calculator} {t : Tracking} {height : Nat} {found jailed : Bool} {window : Float}
  {limit : Nat}

/-- An observation that the history refuses is stale and changes nothing. -/
theorem observeBy_of_not_accepts (h : t.history.accepts ⟨height, found⟩ = false) :
    t.observeBy m height found jailed window limit = (t, .stale) := by
  simp [observeBy, History.push?_eq_none_iff.mpr h]

/-- An observation that the history accepts, by the place where it was made. -/
theorem observeBy_of_push {history : History}
    (h : t.history.push? ⟨height, found⟩ limit = some history) :
    t.observeBy m height found jailed window limit =
      if jailed then ({ t with history := history }, .jailed)
      else if found then (({ t with history := history } : Tracking).resetStreak, .attended)
      else ({ t with history := history } : Tracking).missBy m height window := by
  simp [observeBy, h]

/-- Only what the history refuses is stale. -/
theorem observeBy_eq_stale_iff :
    (t.observeBy m height found jailed window limit).2 = .stale ↔
      t.history.accepts ⟨height, found⟩ = false := by
  constructor
  · intro h
    by_contra ha
    obtain ⟨history, hp⟩ := History.exists_push (by simpa using ha) limit
    rw [observeBy_of_push hp] at h
    cases jailed <;> cases found <;> simp [missBy] at h
  · intro h
    rw [observeBy_of_not_accepts h]

/-- The history grows by the observation if it accepts it. -/
theorem history_observe :
    (t.observe height found jailed window limit).1.history =
      if t.history.accepts ⟨height, found⟩ then
        ⟨History.keepLast limit (t.history.entries ++ [⟨height, found⟩])⟩
      else t.history := by
  rw [observe]
  split
  · rename_i ha
    rw [observeBy_of_push (History.push?_eq_some_iff.mpr ⟨ha, rfl⟩)]
    cases jailed <;> cases found <;> rfl
  · rename_i ha
    rw [observeBy_of_not_accepts (by simpa using ha)]

/-- After an observation the newest entry is the observed one, or it is what it was. -/
theorem newest_observe {e : Attendance}
    (he : e ∈ (t.observe height found jailed window limit).1.history.newest?) :
    e.height = height ∨ e ∈ t.history.newest? := by
  rw [history_observe] at he
  split at he
  · rename_i ha
    have hp : t.history.push? ⟨height, found⟩ limit = some _ :=
      History.push?_eq_some_iff.mpr ⟨ha, rfl⟩
    exact Or.inl (by rw [History.eq_of_mem_newest?_push hp he])
  · exact Or.inr he

/-- The streak of a tracking. -/
def streak (t : Tracking) : Nat × Nat × Nat := (t.counter, t.level, t.lastMissed)

/-- In jail an observation neither touches the streak nor is announced. -/
theorem streak_observe_of_jailed {t' : Tracking} {o : Observation}
    (h : t.observe height found true window limit = (t', o)) :
    t'.streak = t.streak ∧ o.shouldNotify = false := by
  rw [observe] at h
  by_cases ha : t.history.accepts ⟨height, found⟩ = true
  · obtain ⟨history, hp⟩ := History.exists_push ha limit
    rw [observeBy_of_push hp, if_pos rfl] at h
    obtain ⟨rfl, rfl⟩ := Prod.mk.inj h
    exact ⟨rfl, rfl⟩
  · rw [observeBy_of_not_accepts (by simpa using ha)] at h
    obtain ⟨rfl, rfl⟩ := Prod.mk.inj h
    exact ⟨rfl, rfl⟩

end Liveness.Tracking

namespace Liveness.Observation

theorem exists_of_shouldNotify {o : Observation} (h : o.shouldNotify = true) :
    ∃ counter level, o = .missed counter level true := by
  cases o with
  | missed counter level notify => exact ⟨counter, level, congrArg (missed counter level) h⟩
  | _ => cases h

end Liveness.Observation
