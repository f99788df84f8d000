/-!
# Nodes

What answers requests over a network. A node may answer the same request differently each time,
close the connection without an answer, or never answer. The head of an answer comes before its
body, and the connection may fail in between.
-/

namespace Liveness

/-- What comes back for a request. -/
inductive Reply where
  /-- An answer with its status. -/
  | answer (status : Nat) (body : String)
  /-- The connection was closed, or there was none. -/
  | dropped
  /-- Nothing comes back. -/
  | silent
  /-- The head of an answer with its status, and then the connection was closed in the body. -/
  | broken (status : Nat)
  /-- The head of an answer with its status, and then a body that does not end. -/
  | stalled (status : Nat)
  deriving DecidableEq, Repr

/-- What answers requests. -/
class Node (ν : Type) where
  /-- A request for a document. -/
  get (n : ν) (url : String) : Reply × ν
  /-- A request that hands over a document. -/
  post (n : ν) (url body : String) : Reply × ν

/-- A status from 200 to 299 tells of success. -/
def isSuccess (status : Nat) : Bool := 200 ≤ status && status < 300

/-- The wording of a connection that could not be had. -/
def lostRequest (url : String) : String := s!"error sending request for url ({url})"

/-- The wording of an answer whose body could not be had. -/
def lostBody : String := "error decoding response body"

/-- A network in which nothing can be reached. -/
structure Nowhere where
  deriving DecidableEq, Repr

instance : Node Nowhere where
  get n _ := (.dropped, n)
  post n _ _ := (.dropped, n)

end Liveness
