import Liveness.Failure

/-!
# Transport failures

What can go wrong between the library and a node. Failures of the connection may go away by
themselves; an answer of the node, even a refusal or an answer that cannot be read, does not.
-/

namespace Liveness

/-- A failed exchange with a node. -/
inductive TransportFailure where
  /-- A request was not answered, or answered with a status that is no success. -/
  | http (what : String)
  /-- A stream broke. -/
  | webSocket (what : String)
  /-- The node refused. -/
  | rpc (code : Int) (what : String)
  /-- The answer took longer than `ms` milliseconds. -/
  | timeout (ms : Nat)
  /-- The answer is no document, or not one of the expected shape. -/
  | deserialization (what : String)
  /-- The answer is a document without what it should hold. -/
  | malformed (what : String)
  /-- Anything else. -/
  | other (what : String)
  deriving DecidableEq, Repr

namespace TransportFailure

/-- The wording of a failure. -/
def message : TransportFailure → String
  | .http what => s!"HTTP error: {what}"
  | .webSocket what => s!"WebSocket error: {what}"
  | .rpc code what => s!"RPC error {code}: {what}"
  | .timeout ms => s!"Request timed out after {ms}ms"
  | .deserialization what => s!"Deserialization error: {what}"
  | .malformed what => s!"Malformed payload: {what}"
  | .other what => what

/-- The next try may succeed. -/
def isTransient : TransportFailure → Bool
  | .http _ | .webSocket _ | .timeout _ => true
  | _ => false

/-- The failure of the query that the exchange was for. -/
def toFailure : TransportFailure → Failure
  | .timeout ms => .timeout ms
  | e@(.deserialization _) => .decode e.message
  | e@(.malformed _) => .decode e.message
  | .other what => .other what
  | e => .chain e.message

end TransportFailure

end Liveness
