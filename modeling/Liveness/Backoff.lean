import Liveness.Json.Shape
import Liveness.Words

/-!
# Growing delays

The waits between tries: each is a multiple of the one before, up to a greatest wait, and starting
over brings the first one back. Waits are whole milliseconds, and a product is cut to whole
milliseconds before it is multiplied again.
-/

namespace Liveness

/-- The product of a wait and a factor, cut to whole milliseconds below `2 ^ 64`. -/
def scaleMs (ms : Nat) (factor : Float) : Nat := (Float.ofNat ms * factor).toUInt64.toNat

/-- A sequence of waits in milliseconds. -/
structure Backoff where
  /-- The first wait. -/
  initial : Nat
  /-- The greatest wait. -/
  max : Nat
  /-- What a wait is multiplied by to give the next one. -/
  multiplier : Float
  /-- Twice the share of itself that is added to a wait. -/
  jitter : Float
  /-- The next wait, before the share is added. -/
  current : Nat
  deriving DecidableEq, Repr

namespace Backoff

/-- Waits that double. -/
def doubling (initial max : Nat) : Backoff where
  initial := min initial max
  max := max
  multiplier := 2.0
  jitter := 0.0
  current := min initial max

/-- The next wait, and the sequence after it. -/
def next (b : Backoff) : Nat × Backoff :=
  (b.current + scaleMs b.current (b.jitter * 0.5),
    { b with current := min (scaleMs b.current b.multiplier) b.max })

/-- The sequence from its start. -/
def reset (b : Backoff) : Backoff := { b with current := b.initial }

/-- The first `n` waits of a sequence. -/
def take : Nat → Backoff → List Nat
  | 0, _ => []
  | n + 1, b => b.next.1 :: take n b.next.2

end Backoff

/-- How a query is tried again. -/
structure RetryConfig where
  /-- The greatest number of further tries. -/
  maxRetries : Nat
  /-- The first wait in milliseconds. -/
  initialMs : Nat
  /-- The greatest wait in milliseconds. -/
  maxMs : Nat
  /-- What a wait is multiplied by to give the next one. -/
  multiplier : Float
  /-- Twice the share of itself that is added to a wait. -/
  jitter : Float
  deriving DecidableEq, Repr

namespace RetryConfig

/-- The settings where none are given. -/
def standard : RetryConfig := ⟨3, 100, 10000, 2.0, 0.1⟩

/-- `x`, or `least` if `x` is less or no number. -/
def atLeast (least x : Float) : Float := if least ≤ x then x else least

/-- The waits of one query. -/
def backoff (c : RetryConfig) : Backoff :=
  { Backoff.doubling c.initialMs c.maxMs with
    multiplier := atLeast 1.0 c.multiplier
    jitter := atLeast 0.0 c.jitter }

/-- Reads the settings. -/
def read : Json.Reader RetryConfig := fun d => do
  let fs ← Json.fields
    ["max_retries", "initial_backoff_ms", "max_backoff_ms", "multiplier", "jitter_fraction"] d
  return {
    maxRetries := ← fs.optional "max_retries" standard.maxRetries (Json.Reader.natural Bound.word32)
    initialMs := ←
      fs.optional "initial_backoff_ms" standard.initialMs (Json.Reader.natural Bound.word64)
    maxMs := ← fs.optional "max_backoff_ms" standard.maxMs (Json.Reader.natural Bound.word64)
    multiplier := ← fs.optional "multiplier" standard.multiplier Json.Reader.float
    jitter := ← fs.optional "jitter_fraction" standard.jitter Json.Reader.float }

/-- Writes the settings. -/
def toJson (c : RetryConfig) : Json :=
  .object [("max_retries", .ofNat c.maxRetries), ("initial_backoff_ms", .ofNat c.initialMs),
    ("max_backoff_ms", .ofNat c.maxMs), ("multiplier", .ofFloat c.multiplier),
    ("jitter_fraction", .ofFloat c.jitter)]

end RetryConfig

end Liveness
