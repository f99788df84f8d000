import Liveness.Backoff
import Liveness.Words

/-!
# Settings of queries

How queries to a node are tried again, and how long an answer may take.
-/

namespace Liveness

/-- The settings of queries. -/
structure HttpConfig where
  /-- How a query is tried again. -/
  retry : RetryConfig
  /-- The time for one try in milliseconds. -/
  timeoutMs : Nat
  deriving DecidableEq, Repr

namespace HttpConfig

/-- The settings where none are given. -/
def standard : HttpConfig := ⟨RetryConfig.standard, 30000⟩

/-- Reads the settings. -/
def read : Json.Reader HttpConfig := fun d => do
  let fs ← Json.fields ["retry", "request_timeout_ms"] d
  return {
    retry := ← fs.optional "retry" standard.retry RetryConfig.read
    timeoutMs := ←
      fs.optional "request_timeout_ms" standard.timeoutMs (Json.Reader.natural Bound.word64) }

/-- Writes the settings. -/
def toJson (c : HttpConfig) : Json :=
  .object [("retry", c.retry.toJson), ("request_timeout_ms", .ofNat c.timeoutMs)]

end HttpConfig

end Liveness
