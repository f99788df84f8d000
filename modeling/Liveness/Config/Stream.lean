import Liveness.Json.Shape
import Liveness.Words

/-!
# Settings of the block stream

The endpoints of the stream and the waits before it is opened again.
-/

namespace Liveness

/-- The settings of the block stream. -/
structure StreamConfig where
  /-- The endpoint that is tried first. -/
  primaryUrl : String
  /-- The endpoint that is tried in turn with it. -/
  backupUrl : Option String
  /-- The seconds from one look at the height to the next. -/
  watchdogSeconds : Nat
  /-- The first wait before a further connection in milliseconds. -/
  reconnectInitialMs : Nat
  /-- The greatest wait before a further connection in milliseconds. -/
  reconnectMaxMs : Nat
  /-- The blocks that may wait for the engine. -/
  queueCapacity : Nat
  deriving DecidableEq, Repr

namespace StreamConfig

/-- The settings where none are given. -/
def standard : StreamConfig where
  primaryUrl := "ws://localhost:26657/websocket"
  backupUrl := none
  watchdogSeconds := 120
  reconnectInitialMs := 500
  reconnectMaxMs := 60000
  queueCapacity := 256

/-- The names of the settings, in order. -/
def names : List String :=
  ["primary_url", "backup_url", "watchdog_interval_secs", "reconnect_initial_ms",
    "reconnect_max_ms", "queue_capacity"]

/-- Reads the settings. -/
def read : Json.Reader StreamConfig := fun d => do
  let fs ← Json.fields names d
  let natural := fun name default => fs.optional name default (Json.Reader.natural Bound.word64)
  return {
    primaryUrl := ← fs.optional "primary_url" standard.primaryUrl Json.Reader.text
    backupUrl := ←
      fs.optional "backup_url" standard.backupUrl (Json.Reader.nullable Json.Reader.text)
    watchdogSeconds := ← natural "watchdog_interval_secs" standard.watchdogSeconds
    reconnectInitialMs := ← natural "reconnect_initial_ms" standard.reconnectInitialMs
    reconnectMaxMs := ← natural "reconnect_max_ms" standard.reconnectMaxMs
    queueCapacity := ← natural "queue_capacity" standard.queueCapacity }

/-- Writes the settings. -/
def toJson (c : StreamConfig) : Json :=
  .object [("primary_url", .text c.primaryUrl),
    ("backup_url", (c.backupUrl.map .text).getD .null),
    ("watchdog_interval_secs", .ofNat c.watchdogSeconds),
    ("reconnect_initial_ms", .ofNat c.reconnectInitialMs),
    ("reconnect_max_ms", .ofNat c.reconnectMaxMs), ("queue_capacity", .ofNat c.queueCapacity)]

end StreamConfig

end Liveness
