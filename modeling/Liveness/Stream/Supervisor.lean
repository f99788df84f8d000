import Liveness.Backoff
import Liveness.Config.Stream
import Liveness.Node.Payload.Block
import Liveness.Stream.Endpoints

/-!
# The supervisor of the block stream

Opens the stream again and again, at both addresses in turn and after growing waits, and hands on
every block that is higher than all before it. A block that is handed on brings the first wait back.
Frames that cannot be read are passed over.
-/

namespace Liveness

/-- A frame that a node sends. -/
inductive Frame where
  /-- A text. -/
  | text (s : String)
  /-- Anything else. -/
  | other
  deriving DecidableEq, Repr

/-- How a connection ends. -/
inductive Ending where
  /-- The node closes it, or it breaks. -/
  | closed
  /-- The watchdog reports a stall. -/
  | stalled
  /-- The stream is to stop, or nobody takes its blocks any more. -/
  | stopped
  deriving DecidableEq, Repr

/-- What becomes of an attempt to connect. -/
inductive Attempt where
  /-- There is no connection. -/
  | refused
  /-- The node sends frames until the connection ends. -/
  | session (frames : List Frame) (ending : Ending)
  deriving DecidableEq, Repr

/-- The text that asks a node for new blocks. -/
def subscribeText : String :=
  "\x7b\"jsonrpc\":\"2.0\",\"method\":\"subscribe\",\"id\":\"0\",\"params\":\x7b\"query\":" ++
    "\"tm.event='NewBlock'\"\x7d\x7d"

/-- The text that asks a node to stop. -/
def unsubscribeText : String :=
  "\x7b\"jsonrpc\":\"2.0\",\"method\":\"unsubscribe_all\",\"id\":\"0\",\"params\":\x7b\x7d\x7d"

/-- What an attempt came to. -/
structure Visit where
  /-- The address. -/
  url : String
  /-- The texts sent to the node; none if there was no connection. -/
  sent : List String
  /-- The blocks that were handed on. -/
  blocks : List Block
  /-- The wait before the next attempt in milliseconds; none if there is no next one. -/
  wait : Option Nat
  deriving DecidableEq, Repr

/-- The state of the stream between two attempts. -/
structure Supervisor where
  /-- The addresses. -/
  endpoints : Endpoints
  /-- The waits. -/
  waits : Backoff
  /-- The height of the last block that was handed on, zero before the first. -/
  latest : Nat
  deriving DecidableEq, Repr

namespace Supervisor

/-- The state at the start. -/
def start (c : StreamConfig) : Supervisor :=
  ⟨.of c.primaryUrl c.backupUrl, .doubling c.reconnectInitialMs c.reconnectMaxMs, 0⟩

/-- The block in a frame. -/
def blockIn? : Frame → Option Block
  | .text s =>
    match Payload.streamMessage s with
    | .ok (.newBlock b) => some b
    | _ => none
  | .other => none

/-- A frame: the block to hand on, if it holds one that is higher than the last. -/
def receive (s : Supervisor) (f : Frame) : Option Block × Supervisor :=
  match blockIn? f with
  | some b =>
    if b.height ≤ s.latest then (none, s)
    else (some b, { s with latest := b.height, waits := s.waits.reset })
  | none => (none, s)

/-- Frames in order. -/
def receiveAll (s : Supervisor) : List Frame → List Block × Supervisor
  | [] => ([], s)
  | f :: rest =>
    let (b, s) := s.receive f
    let (bs, s) := receiveAll s rest
    (b.toList ++ bs, s)

/-- The turn of the other address, after a wait. -/
def rest (s : Supervisor) : Nat × Supervisor :=
  let (wait, waits) := s.waits.next
  (wait, { s with endpoints := s.endpoints.rotate, waits := waits })

/-- The texts sent over a connection that ends so. -/
def textsSent : Ending → List String
  | .closed => [subscribeText]
  | .stalled | .stopped => [subscribeText, unsubscribeText]

/-- One attempt. -/
def visit (s : Supervisor) (a : Attempt) : Visit × Supervisor :=
  let url := s.endpoints.current
  match a with
  | .refused =>
    let (wait, s) := s.rest
    (⟨url, [], [], some wait⟩, s)
  | .session frames ending =>
    let (blocks, s) := s.receiveAll frames
    match ending with
    | .stopped => (⟨url, textsSent ending, blocks, none⟩, s)
    | _ =>
      let (wait, s) := s.rest
      (⟨url, textsSent ending, blocks, some wait⟩, s)

/-- Attempts in order, until one after which there is no next one. -/
def run (s : Supervisor) : List Attempt → List Visit × Supervisor
  | [] => ([], s)
  | a :: more =>
    let (v, s) := s.visit a
    if v.wait.isNone then ([v], s)
    else
      let (vs, s) := run s more
      (v :: vs, s)

/-- The blocks that are handed on over all attempts. -/
def deliveries (visits : List Visit) : List Block := visits.flatMap (·.blocks)

end Supervisor

end Liveness
