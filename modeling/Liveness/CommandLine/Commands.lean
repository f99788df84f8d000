import Liveness.CommandLine.Machine
import Liveness.Json.Printer
import Liveness.Webhook

/-!
# The commands

What each command does, and the choice of the command by the first argument.
-/

namespace Liveness.CommandLine

variable {ν : Type} [Node ν]

/-- The version. -/
def version : String := "valwatch 0.2.0"

/-- The lines of the help. -/
def usage : List String :=
  [version,
   "Validator liveness alerts for Cosmos SDK chains",
   "",
   "USAGE:",
   "    valwatch <COMMAND> [FLAGS]",
   "",
   "COMMANDS:",
   "    run          Track validators and deliver alerts until Ctrl-C",
   "    check        Query the node: latest height, validators, slashing window",
   "    subscribe    Add a notification target to a validator",
   "    unsubscribe  Remove a notification target from a validator",
   "    info         Print the effective configuration and alert tiers",
   "    version      Print version",
   "    help         Print this help",
   "",
   "FLAGS:",
   "    --config <FILE>       JSON configuration file (defaults apply without it)",
   "    --operator <ADDRESS>  Validator operator address  [subscribe, unsubscribe]",
   "    --target <ID>         Notification target id     [subscribe, unsubscribe]"]

/-- Prints the help. -/
def help : Command ν Unit := usage.forM say

/-- A float without places. -/
def wholeText (x : Float) : String := Decimal.fixed .negative 0 x

/-- Prints the configuration and the alert tiers. -/
def info (args : List String) : Command ν Unit := do
  let c ← loadConfig args
  let window := c.tracker.initialWindow
  say (c.toJson.pretty 0)
  say ""
  say ("Alert tiers for slashing window " ++ wholeText window ++ ":")
  (List.range' 1 alertTiers).forM fun level =>
    let gate := blocksLevel level window
    say s!"  level {level}: every {gate} missed block(s)"

/-- Asks the node for its height, its validators and its slashing window. -/
def check (args : List String) : Command ν Unit := do
  let c ← loadConfig args
  say s!"Checking {c.chain.rpcUrl} / {c.chain.lcdUrl}..."
  let s ← openSession c
  let (height, s) ← query s Session.latestHeight
  let (validators, s) ← query s Chain.validators
  let (params, _) ← query s Chain.slashingParams
  let jailed := validators.countP (·.jailed)
  let window := wholeText params.window
  let share := Decimal.plainText params.minSignedPerWindow
  say "  Status:          OK"
  say s!"  Latest height:   {height}"
  say s!"  RPC latency:     {(← get).latencyMs}ms"
  say s!"  Validators:      {validators.length} ({jailed} jailed)"
  say s!"  Slashing window: {window} ({params.signedBlocksWindow} blocks × {share})"

/-- Makes a target follow an operator or stop following it, and prints what it follows then. -/
def follow (args : List String) (starts : Bool) : Command ν Unit := do
  let operator ← orError id ((flag? args "--operator").elim (.error "--operator is required") .ok)
  let target ← orError id ((flag? args "--target").elim (.error "--target is required") .ok)
  let c ← loadConfig args
  let (r, _) ← inStore c do
    let line ←
      if starts then do
        let sub ← Following.subscribe c.tracker.accountPrefix operator target
        pure s!"{target} subscribed to {operator} ({sub.subscribers.length} subscriber(s))"
      else do
        Following.unsubscribe c.tracker.trackAll operator target
        pure s!"{target} unsubscribed from {operator}"
    return (line, ← Following.followedBy target)
  let (line, followed) ← orError stopMessage r
  say line
  say s!"{target} now follows {followed.length} validator(s)"
  followed.forM fun op => say s!"  {op}"

/-- Posts notices to the configured address, if there is one. -/
def deliverAll (c : AppConfig) (notices : List Delivery) : Command ν Unit := do
  let url := c.notifier.webhookUrl.getD ""
  if url ≠ "" then
    notices.forM fun d => modify fun m => { m with node := (Webhook.deliver url d m.node).2 }

/-- Watches the validators until the program is interrupted. -/
def watch (args : List String) : Command ν Unit := do
  let c ← loadConfig args
  let (visits, _) := (Supervisor.start c.stream).run (← get).connections
  let (r, notices) ← inStore c do
    let _ ← Registry.bootstrap c.tracker.accountPrefix
    Engine.settled c.tracker (Engine.runBlocks c.tracker (Supervisor.deliveries visits))
  deliverAll c notices
  orError (fun s => "initial validator refresh failed: " ++ stopMessage s) r

/-- What becomes of a command. -/
inductive Verdict where
  /-- It is known. -/
  | done
  /-- It is not known, or there is none. -/
  | unknown
  deriving DecidableEq, Repr

/-- The command of the arguments. -/
def dispatch : List String → Command ν Verdict
  | [] => do help; return .unknown
  | name :: args =>
    match name with
    | "run" => do watch args; return .done
    | "check" => do check args; return .done
    | "subscribe" => do follow args true; return .done
    | "unsubscribe" => do follow args false; return .done
    | "info" => do info args; return .done
    | "version" | "--version" | "-V" => do say version; return .done
    | "help" | "--help" | "-h" => do help; return .done
    | other => do
      complain s!"Unknown command: {other}"
      help
      return .unknown

/-- Runs a command: its exit code, and the machine after it. -/
def run (args : List String) (m : Machine ν) : Nat × Machine ν :=
  match (dispatch args).run.run m with
  | (.ok .done, m) => (0, m)
  | (.ok .unknown, m) => (1, m)
  | (.error e, m) => (1, { m with err := m.err ++ s!"Error: {e}\n" })

end Liveness.CommandLine
