import Liveness.Config.App
import Liveness.Disk
import Liveness.Engine
import Liveness.Node.Client
import Liveness.Store.Memory
import Liveness.Store.ReadOnly
import Liveness.Stream.Supervisor

/-!
# The machine of the command line

Commands are functions of the machine they run on: its disk, the node behind its network and what
its connections to the block stream come to. A command prints lines and may end with an error.
-/

namespace Liveness

/-- What a command runs on. -/
structure Machine (ν : Type) where
  /-- The files and databases. -/
  disk : Disk
  /-- The node. -/
  node : ν
  /-- The time that an answer takes in milliseconds. -/
  latencyMs : Nat
  /-- What the attempts to connect to the block stream come to, until the program is interrupted. -/
  connections : List Attempt
  /-- What was printed. -/
  out : String
  /-- What was printed about errors. -/
  err : String

/-- A command; it may end with the text of an error. -/
abbrev Command (ν α : Type) := ExceptT String (StateM (Machine ν)) α

namespace CommandLine

variable {ν : Type} [Node ν]

/-! ## Parts of commands -/

/-- Prints a line. -/
def say (line : String) : Command ν Unit := modify fun m => { m with out := m.out ++ line ++ "\n" }

/-- Prints a line about an error. -/
def complain (line : String) : Command ν Unit :=
  modify fun m => { m with err := m.err ++ line ++ "\n" }

/-- The value, or an error with its wording. -/
def orError {ε α : Type} (wording : ε → String) : Except ε α → Command ν α
  | .ok a => pure a
  | .error e => throw (wording e)

/-- The argument after the first one of this name. -/
def flag? (args : List String) (name : String) : Option String :=
  ((args.dropWhile (· ≠ name)).drop 1).head?

/-- The configuration of the named file, or the standard one. -/
def loadConfig (args : List String) : Command ν AppConfig :=
  match flag? args "--config" with
  | none => orError AppConfig.Error.message AppConfig.standard.validate
  | some path => do
    let text ← orError (fun e => s!"cannot read config file {path}: " ++ e.message)
      ((← get).disk.read path)
    orError (fun e => s!"in {path}: " ++ e.message) (AppConfig.ofText text)

/-- The session with the configured node. -/
def openSession (c : AppConfig) : Command ν (Session ν) := do
  return ⟨.of c.chain.lcdUrl c.chain.rpcUrl c.chain.http, (← get).node, []⟩

/-- Runs a query in a session. -/
def query {α : Type} (s : Session ν) (f : Session ν → Except Failure α × Session ν) :
    Command ν (α × Session ν) := do
  let (r, s) := f s
  modify fun m => { m with node := s.node }
  return (← orError Failure.message r, s)

/-! ## Stores -/

/-- Opens the database at a path or address. -/
def openStore (path : String) : Command ν Disk.Opened := do
  let m ← get
  let (r, disk) := m.disk.openLocation path
  set { m with disk := disk }
  orError (fun f => s!"cannot open store {path}: " ++ f.message) r

/-- Runs a step over a store, keeps the node, and tells the outcome, the notices and the store. -/
def runOver {σ α : Type} (c : AppConfig) (store : σ) (x : Work (Session ν) σ α) :
    Command ν (Except Stop α × List Delivery × σ) := do
  let (r, w) := x.runIn (World.start c.tracker (← openSession c) store)
  modify fun m => { m with node := w.chain.node }
  return (r, w.outbox, w.store)

/-- Runs a step over the configured store, and tells the outcome and the notices. -/
def inStore {α : Type} (c : AppConfig)
    (x : {σ : Type} → [Store σ] → Work (Session ν) σ α) :
    Command ν (Except Stop α × List Delivery) := do
  let path := c.storage.path
  if path = StorageConfig.memoryPath then
    let (r, notices, _) ← runOver c Memory.empty x
    return (r, notices)
  else
    let opened ← openStore path
    if opened.isReadOnly then
      let (r, notices, _) ← runOver c (ReadOnly.mk opened.table) x
      return (r, notices)
    else
      let (r, notices, table) ← runOver c opened.table x
      modify fun m => { m with disk := m.disk.keep opened table }
      return (r, notices)

/-- The wording of a step that did not come to its end. -/
def stopMessage : Stop → String
  | .failed f => f.message
  | .hung => "no answer"

end CommandLine

end Liveness
