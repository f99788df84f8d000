import Liveness.Config.Http
import Liveness.Config.Stream
import Liveness.Config.Tracker
import Liveness.Words

/-!
# The configuration

All settings of the program, in sections. Every section and every setting may be left out.
-/

namespace Liveness

/-! ## Sections -/

/-- The settings of the chain. -/
structure ChainConfig where
  /-- The address of the REST interface. -/
  lcdUrl : String
  /-- The address of the remote calls. -/
  rpcUrl : String
  /-- The settings of queries. -/
  http : HttpConfig
  deriving DecidableEq, Repr

namespace ChainConfig

/-- The settings where none are given. -/
def standard : ChainConfig :=
  ⟨"http://localhost:1317", "http://localhost:26657", HttpConfig.standard⟩

/-- Reads the settings. -/
def read : Json.Reader ChainConfig := fun d => do
  let fs ← Json.fields ["lcd_url", "rpc_url", "http"] d
  return {
    lcdUrl := ← fs.optional "lcd_url" standard.lcdUrl Json.Reader.text
    rpcUrl := ← fs.optional "rpc_url" standard.rpcUrl Json.Reader.text
    http := ← fs.optional "http" standard.http HttpConfig.read }

/-- Writes the settings. -/
def toJson (c : ChainConfig) : Json :=
  .object [("lcd_url", .text c.lcdUrl), ("rpc_url", .text c.rpcUrl), ("http", c.http.toJson)]

end ChainConfig

/-- The settings of the store. -/
structure StorageConfig where
  /-- The path of the database. -/
  path : String
  deriving DecidableEq, Repr

namespace StorageConfig

/-- The path that stands for a store that is lost at the end. -/
def memoryPath : String := ":memory:"

/-- The settings where none are given. -/
def standard : StorageConfig := ⟨"valwatch.db"⟩

/-- Reads the settings. -/
def read : Json.Reader StorageConfig := fun d => do
  let fs ← Json.fields ["path"] d
  return ⟨← fs.optional "path" standard.path Json.Reader.text⟩

/-- Writes the settings. -/
def toJson (c : StorageConfig) : Json := .object [("path", .text c.path)]

end StorageConfig

/-- The settings of deliveries. -/
structure NotifierConfig where
  /-- The address that notices are posted to; without one they are only logged. -/
  webhookUrl : Option String
  /-- The time for one delivery in milliseconds. -/
  timeoutMs : Nat
  deriving DecidableEq, Repr

namespace NotifierConfig

/-- The settings where none are given. -/
def standard : NotifierConfig := ⟨none, 10000⟩

/-- Reads the settings. -/
def read : Json.Reader NotifierConfig := fun d => do
  let fs ← Json.fields ["webhook_url", "timeout_ms"] d
  return {
    webhookUrl := ←
      fs.optional "webhook_url" standard.webhookUrl (Json.Reader.nullable Json.Reader.text)
    timeoutMs := ← fs.optional "timeout_ms" standard.timeoutMs (Json.Reader.natural Bound.word64) }

/-- Writes the settings. -/
def toJson (c : NotifierConfig) : Json :=
  .object [("webhook_url", (c.webhookUrl.map .text).getD .null), ("timeout_ms", .ofNat c.timeoutMs)]

end NotifierConfig

/-- The settings of the log. -/
structure LogConfig where
  /-- The level of all components. -/
  level : String
  /-- The levels of single components. -/
  components : List (String × String)
  /-- The log is written as JSON. -/
  json : Bool
  deriving DecidableEq, Repr

namespace LogConfig

/-- The settings where none are given. -/
def standard : LogConfig := ⟨"info", [], false⟩

/-- Reads the settings. -/
def read : Json.Reader LogConfig := fun d => do
  let fs ← Json.fields ["level", "components", "json"] d
  return {
    level := ← fs.optional "level" standard.level Json.Reader.text
    components := ←
      fs.optional "components" standard.components (Json.Reader.dictionary Json.Reader.text)
    json := ← fs.optional "json" standard.json Json.Reader.bool }

/-- Writes the settings. -/
def toJson (c : LogConfig) : Json :=
  .object [("level", .text c.level),
    ("components", .object (c.components.map fun (name, level) => (name, .text level))),
    ("json", .bool c.json)]

/-- A name with underscores for its hyphens. -/
def underscored (name : String) : String := name.map fun ch => if ch = '-' then '_' else ch

/-- The filter of the log: the level of all components, then those of single ones in the order of
their names, in which hyphens become underscores. -/
def directives (c : LogConfig) : String :=
  let components := c.components.mergeSort fun a b => a.1 ≤ b.1
  ",".intercalate (c.level :: components.map fun (name, level) => underscored name ++ "=" ++ level)

end LogConfig

/-! ## The whole -/

/-- The configuration. -/
structure AppConfig where
  /-- The chain. -/
  chain : ChainConfig
  /-- The block stream. -/
  stream : StreamConfig
  /-- The engine. -/
  tracker : TrackerConfig
  /-- The store. -/
  storage : StorageConfig
  /-- The deliveries. -/
  notifier : NotifierConfig
  /-- The log. -/
  log : LogConfig
  deriving DecidableEq, Repr

namespace AppConfig

/-- The settings where none are given. -/
def standard : AppConfig where
  chain := ChainConfig.standard
  stream := StreamConfig.standard
  tracker := TrackerConfig.standard
  storage := StorageConfig.standard
  notifier := NotifierConfig.standard
  log := LogConfig.standard

/-- Reads the settings. -/
def read : Json.Reader AppConfig := fun d => do
  let fs ← Json.fields ["chain", "stream", "tracker", "storage", "notifier", "log"] d
  return {
    chain := ← fs.optional "chain" standard.chain ChainConfig.read
    stream := ← fs.optional "stream" standard.stream StreamConfig.read
    tracker := ← fs.optional "tracker" standard.tracker TrackerConfig.read
    storage := ← fs.optional "storage" standard.storage StorageConfig.read
    notifier := ← fs.optional "notifier" standard.notifier NotifierConfig.read
    log := ← fs.optional "log" standard.log LogConfig.read }

/-- Writes the settings. -/
def toJson (c : AppConfig) : Json :=
  .object [("chain", c.chain.toJson), ("stream", c.stream.toJson), ("tracker", c.tracker.toJson),
    ("storage", c.storage.toJson), ("notifier", c.notifier.toJson), ("log", c.log.toJson)]

/-- Why there is no configuration. -/
inductive Error where
  /-- The text is no document of the expected shape. -/
  | unreadable
  /-- The engine cannot work with its settings. -/
  | tracker (f : Failure)
  /-- The stream has no endpoint. -/
  | noStreamUrl
  /-- No block may wait for the engine. -/
  | noQueue
  deriving DecidableEq, Repr

/-- The wording of an error. -/
def Error.message : Error → String
  | .unreadable => "invalid configuration JSON"
  | .tracker f => f.message
  | .noStreamUrl => "stream.primary_url must not be empty"
  | .noQueue => "stream.queue_capacity must be at least 1"

/-- The configuration, if the program can work with it. -/
def validate (c : AppConfig) : Except Error AppConfig :=
  match c.tracker.validate with
  | .error f => .error (.tracker f)
  | .ok _ =>
    if c.stream.primaryUrl = "" then .error .noStreamUrl
    else if c.stream.queueCapacity = 0 then .error .noQueue
    else .ok c

/-- The configuration of a text. -/
def ofText (text : String) : Except Error AppConfig :=
  match (Json.Document.parse? text).bind read with
  | none => .error .unreadable
  | some c => c.validate

end AppConfig

end Liveness
