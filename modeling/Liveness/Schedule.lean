/-!
# The schedule of reports

Heights are cut into buckets of one interval each. A report is due when a height falls into a later
bucket than the heights before it; the first height only tells where to start.
-/

namespace Liveness

/-- When reports are due. -/
structure Schedule where
  /-- The blocks from one report to the next. -/
  interval : Nat
  /-- The latest bucket, if there was a height. -/
  bucket : Option Nat
  deriving DecidableEq, Repr

namespace Schedule

/-- The schedule before any height. An interval is at least one block. -/
def every (interval : Nat) : Schedule := ⟨max interval 1, none⟩

/-- Whether a report is due at a height, and the schedule after it. -/
def crosses (s : Schedule) (height : Nat) : Bool × Schedule :=
  let bucket := height / s.interval
  match s.bucket with
  | none => (false, { s with bucket := some bucket })
  | some latest =>
    if latest < bucket then (true, { s with bucket := some bucket }) else (false, s)

@[simp] theorem interval_crosses (s : Schedule) (height : Nat) :
    (s.crosses height).2.interval = s.interval := by
  cases h : s.bucket with
  | none => simp [crosses, h]
  | some latest => by_cases hb : latest < height / s.interval <;> simp [crosses, h, hb]

end Schedule

end Liveness
