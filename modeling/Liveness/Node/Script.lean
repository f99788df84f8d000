import Liveness.Node.Basic

/-!
# Scripted nodes

A node that gives the replies of a list in order, the last one again and again, and remembers what
it was asked.
-/

namespace Liveness

/-- A request as a node sees it. -/
structure Request where
  /-- The address. -/
  url : String
  /-- The document that was handed over. -/
  body : Option String
  deriving DecidableEq, Repr

/-- A node with its replies to come and the requests so far. -/
structure Script where
  /-- The replies to come. -/
  replies : List Reply
  /-- The requests, oldest first. -/
  requests : List Request
  deriving DecidableEq, Repr

namespace Script

/-- The next reply, and the replies after it. -/
def nextReply : List Reply → Reply × List Reply
  | [] => (.dropped, [])
  | [r] => (r, [r])
  | r :: rest => (r, rest)

/-- The reply to a request. -/
def reply (s : Script) (r : Request) : Reply × Script :=
  let (answer, replies) := nextReply s.replies
  (answer, ⟨replies, s.requests ++ [r]⟩)

end Script

instance : Node Script where
  get s url := s.reply ⟨url, none⟩
  post s url body := s.reply ⟨url, some body⟩

end Liveness
