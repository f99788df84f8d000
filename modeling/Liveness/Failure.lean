/-!
# Failures

What can go wrong while validators are watched, each kind with the text that says what happened, and
which kinds may go away by themselves.
-/

namespace Liveness

/-- A failed operation. -/
inductive Failure where
  /-- The chain did not answer a query, or answered that it cannot. -/
  | chain (what : String)
  /-- The store refused or broke. -/
  | storage (what : String)
  /-- An answer could not be read. -/
  | decode (what : String)
  /-- A notice did not reach its target. -/
  | notify (target reason : String)
  /-- A text is not the address it should be. -/
  | invalidAddress (what : String)
  /-- The named thing does not exist. -/
  | notFound (what : String)
  /-- A request of a user was refused. -/
  | rejected (what : String)
  /-- An operation took longer than `ms` milliseconds. -/
  | timeout (ms : Nat)
  /-- The configuration cannot be worked with. -/
  | config (what : String)
  /-- Anything else. -/
  | other (what : String)
  deriving DecidableEq, Repr

namespace Failure

/-- The wording of a failure. -/
def message : Failure → String
  | .chain what => s!"Chain query error: {what}"
  | .storage what => s!"Storage error: {what}"
  | .decode what => s!"Decode error: {what}"
  | .notify target reason => s!"Notification to '{target}' failed: {reason}"
  | .invalidAddress what => s!"Invalid address: {what}"
  | .notFound what => s!"Not found: {what}"
  | .rejected what => s!"Rejected: {what}"
  | .timeout ms => s!"Operation timed out after {ms}ms"
  | .config what => s!"Configuration error: {what}"
  | .other what => what

/-- The next try may succeed. -/
def isTransient : Failure → Bool
  | .chain _ | .storage _ | .timeout _ => true
  | _ => false

end Failure

end Liveness
