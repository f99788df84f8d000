import Liveness.Chain.Basic
import Liveness.Config.Http
import Liveness.Node.Basic
import Liveness.Node.Payload.Block
import Liveness.Node.Payload.Transaction
import Liveness.Node.Payload.Validator
import Liveness.Node.Target

/-!
# Asking nodes

The chain as a node tells it. A query is tried again while its failure may go away and tries are
left, each after a longer wait; a refusal in the answer, whatever its status, is final.
-/

namespace Liveness

/-- How a node is asked. -/
structure Client where
  /-- The address of the REST interface, without slashes at its end. -/
  lcdUrl : String
  /-- The address of the remote calls, without slashes at its end. -/
  rpcUrl : String
  /-- How a query is tried again. -/
  retry : RetryConfig
  /-- The time for one try in milliseconds. -/
  timeoutMs : Nat
  deriving DecidableEq, Repr

namespace Client

/-- An address without slashes at its end. -/
def trimUrl (url : String) : String :=
  String.ofList (url.toList.reverse.dropWhile (· == '/')).reverse

/-- A client for two addresses. -/
def of (lcdUrl rpcUrl : String) (c : HttpConfig) : Client :=
  ⟨trimUrl lcdUrl, trimUrl rpcUrl, c.retry, c.timeoutMs⟩

/-- What a reply to one try tells. An answer without success counts if it holds a refusal. An answer
whose body could not be had tells of a failed connection, whatever its status is; that it was the
time that ran out is told only if there was no head yet. -/
def readReply (url : String) (timeoutMs : Nat) : Reply → Except TransportFailure Json
  | .silent => .error (.timeout timeoutMs)
  | .dropped => .error (.http (lostRequest url))
  | .broken _ | .stalled _ => .error (.http lostBody)
  | .answer status body =>
    if isSuccess status then Payload.parse body
    else
      match (Json.parse? body).filter fun v => (Payload.error? v).isSome with
      | some v => .ok v
      | none => .error (.http s!"HTTP {status}: {body}")

/-- What a query came to. -/
structure Exchange (ν : Type) where
  /-- The document, or the last failure. -/
  outcome : Except TransportFailure Json
  /-- The waits between the tries in milliseconds. -/
  waits : List Nat
  /-- The node afterwards. -/
  node : ν

/-- Sends a query once; nothing is sent to an address that no request can be sent to. -/
def attempt {ν : Type} [Node ν] (address : String) (timeoutMs : Nat) (node : ν) :
    Except TransportFailure Json × ν :=
  match Target.ofAddress address with
  | .error e => (.error (.http e.message), node)
  | .ok url =>
    let (reply, node) := Node.get node url.text
    (readReply url.text timeoutMs reply, node)

/-- Sends a query until it is answered for good or `further` more tries have failed. -/
def exchange {ν : Type} [Node ν] (address : String) (timeoutMs : Nat) (further : Nat)
    (waits : Backoff) (node : ν) : Exchange ν :=
  match attempt address timeoutMs node with
  | (.ok v, node) => ⟨.ok v, [], node⟩
  | (.error e, node) =>
    if e.isTransient then
      match further with
      | 0 => ⟨.error e, [], node⟩
      | further + 1 =>
        let (wait, waits) := waits.next
        let x := exchange address timeoutMs further waits node
        { x with waits := wait :: x.waits }
    else ⟨.error e, [], node⟩

end Client

/-- A client at work with a node. -/
structure Session (ν : Type) where
  /-- The client. -/
  client : Client
  /-- The node. -/
  node : ν
  /-- The waits so far in milliseconds. -/
  waits : List Nat

namespace Session

variable {ν α : Type} [Node ν]

/-- Asks for a document. -/
def get (s : Session ν) (address : String) : Except TransportFailure Json × Session ν :=
  let c := s.client
  let x := Client.exchange address c.timeoutMs c.retry.maxRetries c.retry.backoff s.node
  (x.outcome, { s with node := x.node, waits := s.waits ++ x.waits })

/-- Asks for a document and reads it. -/
def query (s : Session ν) (address : String) (unwrap : Json → Payload.Read Json)
    (read : Json → Payload.Read α) : Except Failure α × Session ν :=
  let (r, s) := s.get address
  (((r.bind unwrap).bind read).mapError TransportFailure.toFailure, s)

/-- A query over the REST interface. -/
def lcd (s : Session ν) (path : String) (read : Json → Payload.Read α) :
    Except Failure α × Session ν :=
  s.query (s.client.lcdUrl ++ path) Payload.lcdResult read

/-- A remote call. -/
def rpc (s : Session ν) (path : String) (read : Json → Payload.Read α) :
    Except Failure α × Session ν :=
  s.query (s.client.rpcUrl ++ path) Payload.rpcResult read

/-- A path for some height, or for now. -/
def atHeight (path : String) : Option Nat → String
  | none => path
  | some h => s!"{path}?height={h}"

/-- The transactions that one answer holds at most. -/
def pageSize : Nat := 100

/-- The path of the search for the transactions of a block; quotes stand as `%22`. -/
def searchPath (height : Nat) : String :=
  s!"/tx_search?query=%22tx.height={height}%22&per_page={pageSize}"

/-- The latest height. -/
def latestHeight (s : Session ν) : Except Failure Nat × Session ν :=
  s.rpc "/status" Payload.statusHeight

/-- The block at a height. -/
def blockAt (s : Session ν) (height : Nat) : Except Failure Block × Session ν :=
  s.rpc s!"/block?height={height}" Payload.blockResult

end Session

instance {ν : Type} [Node ν] : Chain (Session ν) where
  validators s := s.lcd "/staking/validators" Payload.snapshots
  validator s operator height :=
    s.lcd (Session.atHeight s!"/staking/validators/{operator}" height) Payload.snapshot
  stakingPool s height := s.lcd (Session.atHeight "/staking/pool" height) Payload.stakingPool
  slashingParams s := s.lcd "/slashing/parameters" Payload.slashingParams
  transactions s height := s.rpc (Session.searchPath height) Payload.transactions

end Liveness
