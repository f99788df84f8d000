import Liveness.Failure
import Liveness.Json.Shape
import Liveness.Words

/-!
# Settings of the engine

What attendance is kept, who is tracked, and how often windows are refreshed and reports are sent.
-/

namespace Liveness

/-- The settings of the engine. -/
structure TrackerConfig where
  /-- The human-readable part of account addresses. -/
  accountPrefix : String
  /-- The observations that are kept for each validator. -/
  historyWindow : Nat
  /-- Validators are tracked even if nobody follows them. -/
  trackAll : Bool
  /-- The blocks from one report to the next. -/
  reportInterval : Nat
  /-- The blocks that are kept. -/
  blockLimit : Nat
  /-- The blocks from one refresh of the slashing window to the next. -/
  refreshInterval : Nat
  /-- The slashing window before the first refresh. -/
  initialWindow : Float
  /-- The updates that may run at once. Updates are whole steps here, so that no step of the engine
  reads how many of them may overlap. -/
  maxUpdates : Nat
  /-- The time for one update in milliseconds. No step reads it: there is no clock, and an update that
  takes too long is one that waits for ever (`Stop.hung`). -/
  updateTimeoutMs : Nat
  deriving DecidableEq, Repr

namespace TrackerConfig

/-- The settings where none are given. -/
def standard : TrackerConfig where
  accountPrefix := "cosmos"
  historyWindow := 1000
  trackAll := false
  reportInterval := 10000
  blockLimit := 10000
  refreshInterval := 1000
  initialWindow := 5000.0
  maxUpdates := 64
  updateTimeoutMs := 10000

/-- The names of the settings, in order. -/
def names : List String :=
  ["account_prefix", "history_window", "track_all_validators", "report_interval",
    "blockchain_history_limit", "slashing_refresh_interval", "initial_slashing_window",
    "max_concurrent_updates", "update_timeout_ms"]

/-- Reads the settings. -/
def read : Json.Reader TrackerConfig := fun d => do
  let fs ← Json.fields names d
  let natural := fun name default => fs.optional name default (Json.Reader.natural Bound.word64)
  return {
    accountPrefix := ← fs.optional "account_prefix" standard.accountPrefix Json.Reader.text
    historyWindow := ← natural "history_window" standard.historyWindow
    trackAll := ← fs.optional "track_all_validators" standard.trackAll Json.Reader.bool
    reportInterval := ← natural "report_interval" standard.reportInterval
    blockLimit := ← natural "blockchain_history_limit" standard.blockLimit
    refreshInterval := ← natural "slashing_refresh_interval" standard.refreshInterval
    initialWindow := ←
      fs.optional "initial_slashing_window" standard.initialWindow Json.Reader.float
    maxUpdates := ← natural "max_concurrent_updates" standard.maxUpdates
    updateTimeoutMs := ← natural "update_timeout_ms" standard.updateTimeoutMs }

/-- Writes the settings. -/
def toJson (c : TrackerConfig) : Json :=
  .object [("account_prefix", .text c.accountPrefix), ("history_window", .ofNat c.historyWindow),
    ("track_all_validators", .bool c.trackAll), ("report_interval", .ofNat c.reportInterval),
    ("blockchain_history_limit", .ofNat c.blockLimit),
    ("slashing_refresh_interval", .ofNat c.refreshInterval),
    ("initial_slashing_window", .ofFloat c.initialWindow),
    ("max_concurrent_updates", .ofNat c.maxUpdates),
    ("update_timeout_ms", .ofNat c.updateTimeoutMs)]

/-- What the engine cannot work with. -/
inductive Defect where
  /-- A setting is zero. -/
  | zero (name : String)
  /-- The initial slashing window is less than two. -/
  | narrowWindow
  /-- Account addresses have an empty human-readable part. -/
  | noPrefix
  deriving DecidableEq, Repr

/-- The wording of a defect. -/
def Defect.message : Defect → String
  | .zero name => s!"{name} must be > 0"
  | .narrowWindow => "initial_slashing_window must be >= 2"
  | .noPrefix => "account_prefix must not be empty"

/-- The first defect of the settings. -/
def defect? (c : TrackerConfig) : Option Defect :=
  if c.historyWindow = 0 then some (.zero "history_window")
  else if c.reportInterval = 0 then some (.zero "report_interval")
  else if c.refreshInterval = 0 then some (.zero "slashing_refresh_interval")
  else if c.maxUpdates = 0 then some (.zero "max_concurrent_updates")
  else if c.initialWindow < 2.0 then some .narrowWindow
  else if c.accountPrefix = "" then some .noPrefix
  else none

/-- The settings, if they have no defect. -/
def validate (c : TrackerConfig) : Except Failure TrackerConfig :=
  match c.defect? with
  | some d => .error (.config d.message)
  | none => .ok c

end TrackerConfig

end Liveness
