import Liveness.Subscription
import Liveness.Validator

/-!
# Alerts

A streak of `k` misses against a slashing window `W` has the alert level `⌈5 · ln k / ln W⌉`, at
least one. A level `L` announces the streaks whose length is a multiple of its gate `⌈W ^ (L / 5)⌉`.
Both ceilings pass over rounding noise just above a whole number, and a window below two counts as
two. An observation decides with the level that the streak had before it and then computes the new
one.
-/

namespace Liveness

/-- The number of tiers between the first miss and the whole window. -/
def alertTiers : Nat := 5

/-- The greatest number of marks in front of an alert. -/
def maxSeverity : Nat := 5

/-- The least slashing window. -/
def minWindow : Float := 2.0

/-- The window as the alerts use it: at least two, and two if it is no number. -/
def clampWindow (window : Float) : Float := if minWindow < window then window else minWindow

/-- The slashing window of a chain: the blocks that must be signed among those that are counted. -/
def SlashingParams.window (p : SlashingParams) : Float :=
  clampWindow (Float.ofNat p.signedBlocksWindow * p.minSignedPerWindow)

/-- The functions of a machine that levels and gates are computed with. -/
structure Calculator where
  /-- The logarithm of a count to a base. -/
  log : Float → Nat → Float
  /-- The power of a base whose exponent is a number of tiers among all tiers. -/
  power : Float → Nat → Float
  /-- The least whole number that is not below. -/
  ceil : Float → Float

namespace Calculator

/-- The functions of the machine that runs the program. -/
def native : Calculator where
  log base count := count.toUInt64.toFloat.log / base.log
  power base tier := base.pow (Float.ofNat tier / 5.0)
  ceil := Float.ceil

variable (m : Calculator)

/-- The least whole number that is not below `x - 10 ^ -9`. -/
def steadyCeil (x : Float) : Float := m.ceil (x - 1e-9)

/-- The alert level of a streak of `counter` misses. -/
def alertLevel (counter : Nat) (window : Float) : Nat :=
  if counter ≤ 1 then 1
  else max (m.steadyCeil (m.log (clampWindow window) counter * 5.0)).toUInt32.toNat 1

/-- The number of misses from one announcement to the next at a level. -/
def blocksLevel (level : Nat) (window : Float) : Nat :=
  max (m.steadyCeil (m.power (clampWindow window) level)).toUInt64.toNat 1

end Calculator

/-- The alert level of a streak of `counter` misses, as this machine computes it. -/
def alertLevel : Nat → Float → Nat := Calculator.native.alertLevel

/-- The number of misses between two announcements at a level, as this machine computes it. -/
def blocksLevel : Nat → Float → Nat := Calculator.native.blocksLevel

/-- The marks in front of an alert, one for each level up to the greatest number. -/
def severityMarks (level : Nat) : String :=
  String.ofList (List.replicate (min (max level 1) maxSeverity) '🔴')

/-- What one block did to the tracking of a validator. -/
inductive Observation where
  /-- The vote was present. -/
  | attended
  /-- The vote was missing; `notify` if the streak is to be announced. -/
  | missed (counter level : Nat) (notify : Bool)
  /-- The validator is jailed: only the history grew. -/
  | jailed
  /-- The height is not new: nothing changed. -/
  | stale
  deriving DecidableEq, Repr

/-- The streak is to be announced. -/
def Observation.shouldNotify : Observation → Bool
  | .missed _ _ notify => notify
  | _ => false

namespace Tracking

/-- The streak of a miss at `height`: it goes on only directly after the newest miss. -/
def nextCounter (t : Tracking) (height : Nat) : Nat :=
  if t.lastMissed ≠ 0 ∧ height = t.lastMissed + 1 then t.counter + 1 else 1

/-- A miss of a validator that is not jailed. -/
def missBy (m : Calculator) (t : Tracking) (height : Nat) (window : Float) :
    Tracking × Observation :=
  let counter := t.nextCounter height
  let gate := m.blocksLevel (max t.level 1) window
  let notify := counter != 0 && counter % gate == 0
  let level := m.alertLevel counter window
  ({ t with counter := counter, level := level, lastMissed := height },
    .missed counter level notify)

/-- One observation: whether the vote at `height` was found, and whether the validator is jailed. -/
def observeBy (m : Calculator) (t : Tracking) (height : Nat) (found jailed : Bool)
    (window : Float) (limit : Nat) : Tracking × Observation :=
  match t.history.push? ⟨height, found⟩ limit with
  | none => (t, .stale)
  | some history =>
    let t := { t with history := history }
    if jailed then (t, .jailed)
    else if found then (t.resetStreak, .attended)
    else t.missBy m height window

/-- One observation, with the levels and gates that this machine computes. -/
def observe : Tracking → Nat → Bool → Bool → Float → Nat → Tracking × Observation :=
  observeBy .native

end Tracking

end Liveness
