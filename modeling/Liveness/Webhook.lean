import Liveness.Failure
import Liveness.Json.Printer
import Liveness.Node.Basic
import Liveness.Node.Status
import Liveness.Node.Target
import Liveness.World

/-!
# Deliveries

Notices are posted to a fixed address as a document with the target and the text. Any success will
do; nothing is tried again.
-/

namespace Liveness.Webhook

/-- The document of a notice. -/
def payload (d : Delivery) : Json := .object [("target", .text d.target), ("text", .text d.text)]

/-- What an answer to a notice tells. -/
def readAnswer (target : String) (status : Nat) (body : String) : Except Failure Unit :=
  if isSuccess status then .ok ()
  else
    let reason := Status.text status
    .error (.notify target s!"HTTP {reason}: {body}")

/-- What the reply to a notice tells. The body of a success is not read; one that could not be had
counts as empty. -/
def readReply (url target : String) : Reply → Except Failure Unit
  | .answer status body => readAnswer target status body
  | .broken status | .stalled status => readAnswer target status ""
  | .dropped | .silent => .error (.notify target (lostRequest url))

/-- Posts a notice. -/
def deliver {ν : Type} [Node ν] (address : String) (d : Delivery) (node : ν) :
    Except Failure Unit × ν :=
  match Target.ofAddress address with
  | .error e => (.error (.notify d.target e.message), node)
  | .ok url =>
    let (reply, node) := Node.post node url.text (payload d).print
    (readReply url.text d.target reply, node)

end Liveness.Webhook
